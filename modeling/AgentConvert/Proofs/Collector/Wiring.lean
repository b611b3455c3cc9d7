import AgentConvert.Proofs.Collector.Fields
import AgentConvert.Proofs.Label

/-!
# The wiring of a collector

No instance is accepted twice (`Config.nodup_accepted`), so an accepted instance is registered with
its own kind and label (`Config.instance?_wiring`), and no other instance is registered. What a
converter does to an instance is the same for all kinds but for the arguments, the signals that
leave it and what it reports (`Converter.convert_eq`).
-/

namespace AgentConvert.Collector

/-! ## Accepted instances -/

theorem nodup_eraseDups {α : Type} [DecidableEq α] (as : List α) : as.eraseDups.Nodup := by
  match as with
  | [] => simp
  | a :: as =>
    rw [List.eraseDups_cons, List.nodup_cons]
    refine ⟨fun h => ?_, nodup_eraseDups (as.filter fun b => !b == a)⟩
    rw [List.mem_eraseDups, List.mem_filter] at h
    simp at h
termination_by as.length
decreasing_by exact Nat.lt_succ_of_le (List.length_filter_le ..)

/-- An instance is accepted if its type has a converter, its body can be decoded, and nothing makes
its settings unusable. -/
theorem Fate.of_eq_accepted {registry : Registry} {id : InstanceId} {body : Json}
    {s : ComponentSettings} : Fate.of registry id body = .accepted s ↔
      ∃ kind, SourceKind.ofType? id.cls (ComponentId.ofText id.name).type = some kind ∧
        registry.contains kind = true ∧ ComponentSettings.ofBody kind body = .ok s ∧
        (Converter.faults kind id s).hasErrors = false := by
  unfold Fate.of
  constructor
  · intro h
    split at h
    · exact absurd h (by simp)
    · rename_i kind hkind
      obtain ⟨htype, hcontains⟩ := Option.filter_eq_some_iff.1 hkind
      split at h
      · exact absurd h (by simp)
      · rename_i settings hbody
        dsimp only at h
        split at h
        · exact absurd h (by simp)
        · rename_i hfaults
          obtain rfl := Fate.accepted.inj h
          exact ⟨kind, htype, hcontains, hbody, Bool.eq_false_iff.2 hfaults⟩
  · rintro ⟨kind, htype, hcontains, hbody, hfaults⟩
    rw [Option.filter_eq_some_iff.2 ⟨htype, hcontains⟩]
    dsimp only
    rw [hbody]
    dsimp only
    rw [hfaults]
    rfl

namespace Config

variable {registry : Registry} {config : Config}

theorem mem_accepted {a : Accepted} : a ∈ config.accepted registry ↔
    a.id ∈ config.members ∧
      ∃ body, config.body? a.id = some body ∧ Fate.of registry a.id body = .accepted a.settings := by
  obtain ⟨id, settings⟩ := a
  simp only [accepted, fates, List.mem_filterMap, Option.map_eq_some_iff]
  constructor
  · rintro ⟨e, ⟨id', hid, body, hbody, rfl⟩, h⟩
    split at h
    · rename_i s heq
      obtain ⟨rfl, hs⟩ := Accepted.mk.inj (Option.some.inj h)
      obtain ⟨rfl, hfate⟩ := Prod.mk.inj heq
      exact ⟨hid, body, hbody, hs ▸ hfate⟩
    · exact absurd h (by simp)
  · rintro ⟨hid, body, hbody, hfate⟩
    refine ⟨(id, .accepted settings), ⟨id, hid, body, hbody, ?_⟩, rfl⟩
    rw [hfate]

theorem fates_eq (registry : Registry) (config : Config) :
    (config.fates registry).map Prod.fst =
      config.members.filter fun id => (config.body? id).isSome := by
  unfold fates
  induction config.members with
  | nil => rfl
  | cons id ids ih =>
    cases hbody : config.body? id with
    | none => simpa [hbody] using ih
    | some body => simpa [hbody] using ih

theorem sublist_accepted (fates : List (InstanceId × Fate)) :
    ((fates.filterMap fun
      | (id, .accepted settings) => some (Accepted.mk id settings)
      | _ => none).map Accepted.id).Sublist (fates.map Prod.fst) := by
  induction fates with
  | nil => exact .refl _
  | cons e fates ih =>
    obtain ⟨id, fate⟩ := e
    cases fate with
    | accepted settings => exact ih.cons_cons id
    | unsupported | undecodable _ | rejected _ => exact ih.cons id

/-- No instance is accepted twice. -/
theorem nodup_accepted (registry : Registry) (config : Config) :
    ((config.accepted registry).map Accepted.id).Nodup := by
  have hfates : ((config.fates registry).map Prod.fst).Nodup := by
    rw [fates_eq]
    exact (nodup_eraseDups _).filter _
  exact (sublist_accepted _).nodup hfates

/-! ## Registered instances -/

/-- Registers accepted instances one after the other. -/
def registerAll (w : Wiring) (labelled : List (Accepted × String)) : Wiring :=
  labelled.foldl (fun w (a, label) => w.register a.id ⟨a.kind.component, label, a.kind.input?⟩) w

theorem wiring_eq (config : Config) (labelled : List (Accepted × String)) :
    config.wiring labelled = registerAll ⟨config.graph, []⟩ labelled := rfl

theorem registerAll_cons (w : Wiring) (a : Accepted) (label : String)
    (labelled : List (Accepted × String)) :
    registerAll w ((a, label) :: labelled) =
      registerAll (w.register a.id ⟨a.kind.component, label, a.kind.input?⟩) labelled := rfl

theorem graph_registerAll (w : Wiring) (labelled : List (Accepted × String)) :
    (registerAll w labelled).graph = w.graph := by
  induction labelled generalizing w with
  | nil => rfl
  | cons e labelled ih =>
    rw [registerAll_cons, ih]
    rfl

theorem instance?_registerAll_of_not_mem {labelled : List (Accepted × String)} {id : InstanceId}
    (w : Wiring) (h : id ∉ labelled.map fun e => e.1.id) :
    (registerAll w labelled).instance? id = w.instance? id := by
  induction labelled generalizing w with
  | nil => rfl
  | cons e labelled ih =>
    rw [List.map_cons, List.mem_cons, not_or] at h
    rw [registerAll_cons, ih _ h.2, Wiring.instance?_register, if_neg (Ne.symm h.1)]

theorem instance?_registerAll {labelled : List (Accepted × String)} {a : Accepted} {label : String}
    (w : Wiring) (hnodup : (labelled.map fun e => e.1.id).Nodup) (h : (a, label) ∈ labelled) :
    (registerAll w labelled).instance? a.id =
      some ⟨a.kind.component, label, a.kind.input?⟩ := by
  induction labelled generalizing w with
  | nil => exact absurd h (by simp)
  | cons e labelled ih =>
    rw [List.map_cons, List.nodup_cons] at hnodup
    rcases List.mem_cons.1 h with rfl | h
    · rw [registerAll_cons, instance?_registerAll_of_not_mem _ hnodup.1,
        Wiring.instance?_register, if_pos rfl]
    · exact ih _ hnodup.2 h

theorem map_id_zip {accepted : List Accepted} {labels : List String}
    (h : labels.length = accepted.length) :
    ((accepted.zip labels).map fun e => e.1.id) = accepted.map Accepted.id := by
  have hfst : (accepted.zip labels).map Prod.fst = accepted :=
    List.map_fst_zip (Nat.le_of_eq h.symm)
  calc (accepted.zip labels).map (fun e => e.1.id)
      = ((accepted.zip labels).map Prod.fst).map Accepted.id := by rw [List.map_map]; rfl
    _ = accepted.map Accepted.id := by rw [hfst]

/-- An accepted instance is registered with its own kind and label. -/
theorem instance?_wiring {labels : List String} {a : Accepted} {label : String}
    (hlength : labels.length = (config.accepted registry).length)
    (h : (a, label) ∈ (config.accepted registry).zip labels) :
    (config.wiring ((config.accepted registry).zip labels)).instance? a.id =
      some ⟨a.kind.component, label, a.kind.input?⟩ := by
  refine instance?_registerAll _ ?_ h
  rw [map_id_zip hlength]
  exact nodup_accepted registry config

/-- No other instance is registered. -/
theorem instance?_wiring_of_not_mem {labels : List String} {id : InstanceId}
    (hlength : labels.length = (config.accepted registry).length)
    (h : id ∉ (config.accepted registry).map Accepted.id) :
    (config.wiring ((config.accepted registry).zip labels)).instance? id = none := by
  rw [wiring_eq, instance?_registerAll_of_not_mem]
  · rfl
  · rwa [map_id_zip hlength]

end Config

/-! ## Converters -/

/-- The signals of the data that leaves a component. -/
def ComponentSettings.signals : ComponentSettings → List Signal
  | zipkinReceiver _ => [.traces]
  | _ => Signal.all

namespace Converter

/-- What a converter reports before the block. -/
def losses (w : Wiring) (id : InstanceId) : ComponentSettings → Diagnostics
  | .zipkinReceiver _ => unwired w id .metrics ++ unwired w id .logs
  | .attributesProcessor s => s.losses id
  | .otlpExporter s => authLoss id s.auth
  | .otlpHttpExporter s => authLoss id s.auth
  | .debugExporter s => s.losses id
  | _ => []

theorem convert_eq (w : Wiring) (id : InstanceId) (s : ComponentSettings) :
    convert w s.kind id s = .report (losses w id s) ++
      w.converted id s.kind.component (s.arguments (w.output id s.signals)) := by
  cases s <;> rfl

end Converter

end AgentConvert.Collector
