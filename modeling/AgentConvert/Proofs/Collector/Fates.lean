import AgentConvert.Proofs.Collector.Document
import AgentConvert.Proofs.Collector.Ledger
import AgentConvert.Proofs.Formatted.Result

/-!
# No component disappears silently

Each declared component meets one of five fates (`Outcome`), and each fate leaves its own trace
(`Outcome.Leaves`): a warning or errors about the component, or a block and the finding that names
it. All findings of a conversion are accounted for by what they are about (`Config.Accounts`), so
none of them is counted twice.
-/

namespace AgentConvert.Collector

open Ledger

/-! ## Fates -/

/-- The fates of a declared component. -/
inductive Outcome where
  | unused
  | unsupported
  | undecodable
  | rejected
  | converted
  deriving DecidableEq

/-- When a declared component with a body meets a fate. -/
def Outcome.Applies (config : Config) (id : InstanceId) (body : Json) : Outcome → Prop
  | unused => ¬config.Lists id
  | unsupported =>
    config.Lists id ∧ SourceKind.ofType? id.cls (ComponentId.ofText id.name).type = none
  | undecodable => config.Lists id ∧ ∃ kind error,
    SourceKind.ofType? id.cls (ComponentId.ofText id.name).type = some kind ∧
      ComponentSettings.ofBody kind body = .error error
  | rejected => config.Lists id ∧ ∃ kind settings,
    SourceKind.ofType? id.cls (ComponentId.ofText id.name).type = some kind ∧
      ComponentSettings.ofBody kind body = .ok settings ∧
      (Converter.faults kind id settings).hasErrors = true
  | converted => config.Lists id ∧ ∃ kind settings,
    SourceKind.ofType? id.cls (ComponentId.ofText id.name).type = some kind ∧
      ComponentSettings.ofBody kind body = .ok settings ∧
      (Converter.faults kind id settings).hasErrors = false

/-- The finding that names the block of an instance. -/
def Placement.announcement (p : Placement) : Diagnostic :=
  .info ("Converted " ++ p.accepted.id.shown ++ " into " ++ dottedName p.block.name ++ "." ++
    p.block.label.getD "")

/-- What a fate leaves of an instance: what is said about it, and its blocks. -/
def Outcome.Leaves (id : InstanceId) (said : Diagnostics) (own : List Placement) : Outcome → Prop
  | unused => own = [] ∧ said = [Config.unusedComponent id]
  | unsupported => own = [] ∧ said = [.warning ("unsupported " ++ id.cls.name ++ " \"" ++
      (ComponentId.ofText id.name).type ++ "\" component was not converted")]
  | undecodable => own = [] ∧ ∃ reason,
    said = [.error ("failed to decode " ++ id.shown ++ ": " ++ reason)]
  | rejected => own = [] ∧ said ≠ [] ∧ Concern .error id said
  | converted => ∃ p losses, own = [p] ∧ said = losses ++ [p.announcement] ∧
    Concern .warning id losses

/-- The findings of a conversion by what they are about, beside the blocks of the instances. -/
structure Config.Accounts (config : Config) (placements : List Placement) (ledger : Ledger) :
    Prop where
  /-- Nothing is said about what does not occur in the configuration. -/
  occurs : ∀ e ∈ ledger, config.Occurs e.1
  /-- Each declared component meets one fate. -/
  components : ∀ id body, config.body? id = some body → ∃ o : Outcome,
    o.Applies config id body ∧ (∀ o' : Outcome, o'.Applies config id body → o' = o) ∧
      o.Leaves id (ledger.about (.component id)) (placements.filter (·.accepted.id = id))
  /-- Each mention of a name that is declared nowhere is an error. -/
  mentions : ∀ p ∈ config.signalPipelines, ∀ cls place name, (p.names cls)[place]? = some name →
    ledger.about (.mention p.name cls place) =
      if config.declares cls name then [] else [undeclaredMention p.name cls name]
  pipelines : ∀ name type, config.service.pipelines.contains name = true →
    pipelineSignal name = .error type →
      ledger.about (.pipeline name) = [unknownPipeline name type]
  extensions : ∀ name, config.extensions.contains name = true →
    ledger.about (.extension name) = [unsupportedEntry "extension" name]
  connectors : ∀ name, config.connectors.contains name = true →
    ledger.about (.connector name) = [unsupportedEntry "connector" name]

namespace Config

variable {config : Config} {id : InstanceId} {body : Json}

/-! ## Which fate -/

theorem exists_outcome (config : Config) (id : InstanceId) (body : Json) :
    ∃ o : Outcome, o.Applies config id body := by
  by_cases hlists : config.Lists id
  · cases htype : SourceKind.ofType? id.cls (ComponentId.ofText id.name).type with
    | none => exact ⟨.unsupported, hlists, htype⟩
    | some kind =>
      cases hbody : ComponentSettings.ofBody kind body with
      | error e => exact ⟨.undecodable, hlists, kind, e, htype, hbody⟩
      | ok settings =>
        cases hfaults : (Converter.faults kind id settings).hasErrors with
        | true => exact ⟨.rejected, hlists, kind, settings, htype, hbody, hfaults⟩
        | false => exact ⟨.converted, hlists, kind, settings, htype, hbody, hfaults⟩
  · exact ⟨.unused, hlists⟩

theorem outcome_unique {o o' : Outcome} (h : o.Applies config id body)
    (h' : o'.Applies config id body) : o' = o := by
  cases o <;> cases o' <;> grind [Outcome.Applies]

end Config

/-- With all converters at hand only the type of an instance says whether it is supported. -/
theorem Fate.of_builtin (id : InstanceId) (body : Json) : Fate.of .builtin id body =
    match SourceKind.ofType? id.cls (ComponentId.ofText id.name).type with
    | none => unsupported
    | some kind =>
      match ComponentSettings.ofBody kind body with
      | .error e => undecodable e
      | .ok settings =>
        if (Converter.faults kind id settings).hasErrors
        then rejected (Converter.faults kind id settings) else accepted settings := by
  unfold Fate.of
  cases SourceKind.ofType? id.cls (ComponentId.ofText id.name).type with
  | none => rfl
  | some kind =>
    rewrite [Option.filter_some, if_pos (Registry.contains_builtin kind)]
    rfl

/-- Once the body is decoded only the faults of the settings decide. -/
theorem Fate.of_decoded {id : InstanceId} {body : Json} {kind : SourceKind}
    {settings : ComponentSettings}
    (htype : SourceKind.ofType? id.cls (ComponentId.ofText id.name).type = some kind)
    (hsettings : ComponentSettings.ofBody kind body = .ok settings) :
    Fate.of .builtin id body = if (Converter.faults kind id settings).hasErrors
      then rejected (Converter.faults kind id settings) else accepted settings := by
  rw [of_builtin, htype]
  dsimp only
  rw [hsettings]

/-! ## What is said -/

namespace Config

/-- What is said about instances before their blocks are built. -/
def fateLedger (config : Config) : Ledger :=
  (config.fates .builtin).flatMap fun e => on (.component e.1) (e.2.findings e.1)

/-- What is said about instances that have blocks. -/
def placementLedger (config : Config) : Ledger :=
  (config.placements .builtin).flatMap fun p => on (.component p.accepted.id) p.findings

/-- All that is said, with what it is about. -/
def ledger (config : Config) : Ledger :=
  config.planLedger ++ config.fateLedger ++ config.placementLedger

theorem map_snd_ledger (config : Config) :
    config.ledger.map Prod.snd = (config.convert .builtin .empty).1.findings := by
  obtain ⟨logging, hlogging, -, -⟩ := logging_eq config.service.telemetry.logs
  rw [convert_eq, hlogging]
  simp only [ledger, fateLedger, placementLedger, List.map_append, map_snd_planLedger,
    map_snd_flatMap_on, placements, List.flatMap_map]
  simp [Draft.report]

variable {config : Config} {id : InstanceId} {body : Json}

theorem nodup_fates : ((config.fates .builtin).map Prod.fst).Nodup := by
  rw [fates_eq]
  exact (nodup_eraseDups _).filter _

theorem about_fateLedger (hlists : config.Lists id) (hbody : config.body? id = some body) :
    about config.fateLedger (.component id) = (Fate.of .builtin id body).findings id := by
  have hdeclared := contains_of_body? hbody
  have hmem : (id, Fate.of .builtin id body) ∈ config.fates .builtin := by
    refine List.mem_filterMap.2 ⟨id, mem_members.2 ⟨hlists, hdeclared⟩, ?_⟩
    rw [hbody]
    rfl
  exact about_flatMap_on (nodup_fates.of_map _) hmem fun e he heq =>
    List.inj_on_of_nodup_map nodup_fates he hmem (Subject.component.inj heq)

theorem about_fateLedger_of_not_lists (h : ¬config.Lists id) :
    about config.fateLedger (.component id) = [] := by
  refine about_flatMap_on_of_ne fun e he heq => h ?_
  obtain ⟨id', hid', he⟩ := List.mem_filterMap.1 he
  obtain ⟨body, -, rfl⟩ := Option.map_eq_some_iff.1 he
  obtain rfl : id' = id := Subject.component.inj heq
  exact (mem_members.1 hid').1

/-! ## Blocks -/

theorem nodup_placements :
    ((config.placements .builtin).map fun p => p.accepted.id).Nodup := by
  have hids : (config.placements .builtin).map (fun p => p.accepted.id) =
      (config.accepted .builtin).map Accepted.id := by
    rw [← map_accepted_placements, List.map_map]
    rfl
  rw [hids]
  exact nodup_accepted .builtin config

/-- An instance with a block was accepted. -/
theorem of_mem_placements {p : Placement} (h : p ∈ config.placements .builtin) :
    config.Lists p.accepted.id ∧ ∃ body, config.body? p.accepted.id = some body ∧
      Fate.of .builtin p.accepted.id body = .accepted p.accepted.settings := by
  have haccepted : p.accepted ∈ config.accepted .builtin := by
    rw [← map_accepted_placements]
    exact List.mem_map_of_mem h
  obtain ⟨hmember, hfate⟩ := mem_accepted.1 haccepted
  exact ⟨(mem_members.1 hmember).1, hfate⟩

/-- The blocks of an instance: one if it is accepted. -/
theorem own_of_accepted {settings : ComponentSettings} (hlists : config.Lists id)
    (hbody : config.body? id = some body)
    (hfate : Fate.of .builtin id body = .accepted settings) :
    ∃ p, p.accepted = ⟨id, settings⟩ ∧ p ∈ config.placements .builtin ∧
      (config.placements .builtin).filter (·.accepted.id = id) = [p] := by
  have hdeclared := contains_of_body? hbody
  have haccepted : (⟨id, settings⟩ : Accepted) ∈ config.accepted .builtin :=
    mem_accepted.2 ⟨mem_members.2 ⟨hlists, hdeclared⟩, body, hbody, hfate⟩
  rw [← map_accepted_placements] at haccepted
  obtain ⟨p, hp, heq⟩ := List.mem_map.1 haccepted
  refine ⟨p, heq, hp, ?_⟩
  have hid : p.accepted.id = id := congrArg Accepted.id heq
  have hfilter : (config.placements .builtin).filter (·.accepted.id = id) =
      (config.placements .builtin).flatMap fun q => if q.accepted.id = id then [q] else [] := by
    rw [← List.filterMap_eq_filter, List.filterMap_eq_flatMap_toList]
    refine congrArg (fun f => List.flatMap f _) (funext fun q => ?_)
    by_cases hq : q.accepted.id = id <;> simp [Option.guard, hq]
  rw [hfilter, flatMap_eq_of_nodup (nodup_placements.of_map _) hp, if_pos hid]
  refine fun q hq hne => if_neg fun hid' => hne ?_
  exact List.inj_on_of_nodup_map nodup_placements hq hp (hid'.trans hid.symm)

/-- An instance that is not accepted has no block. -/
theorem own_of_not_accepted (h : config.Lists id → ∀ body, config.body? id = some body →
      ∀ settings, Fate.of .builtin id body ≠ .accepted settings) :
    (config.placements .builtin).filter (·.accepted.id = id) = [] ∧
      about config.placementLedger (.component id) = [] := by
  have hne : ∀ p ∈ config.placements .builtin, p.accepted.id ≠ id := by
    rintro p hp rfl
    obtain ⟨hlists, body, hbody, hfate⟩ := of_mem_placements hp
    exact h hlists body hbody p.accepted.settings hfate
  refine ⟨List.filter_eq_nil_iff.2 fun p hp => by simpa using hne p hp, ?_⟩
  exact about_flatMap_on_of_ne fun p hp heq => hne p hp (Subject.component.inj heq)

theorem about_placementLedger {p : Placement} (h : p ∈ config.placements .builtin) :
    about config.placementLedger (.component p.accepted.id) = p.findings :=
  about_flatMap_on (nodup_placements.of_map _) h fun _ hq heq =>
    List.inj_on_of_nodup_map nodup_placements hq h (Subject.component.inj heq)

/-- What is said about an instance that has a block: what is left out, and what names the block. -/
theorem findings_of_mem_placements {p : Placement} (h : p ∈ config.placements .builtin) :
    ∃ losses, p.findings = losses ++ [p.announcement] ∧ Concern .warning p.accepted.id losses := by
  obtain ⟨e, he, rfl⟩ := List.mem_map.1 h
  exact ⟨Converter.losses (config.wired .builtin) e.1.id e.1.settings, rfl,
    Converter.concern_losses _ _ _⟩

/-! ## Every component -/

theorem about_ledger_of_not_lists (hlists : ¬config.Lists id)
    (hbody : config.body? id = some body) :
    about config.ledger (.component id) = [unusedComponent id] := by
  have hmember : config.members.contains id = false := by
    rw [Bool.eq_false_iff, ne_eq, List.contains_iff_mem, mem_members]
    exact fun h => hlists h.1
  have hown := (own_of_not_accepted fun h => absurd h hlists).2
  rw [ledger, about_append, about_append, hown, about_fateLedger_of_not_lists hlists,
    about_component id (contains_of_body? hbody), hmember]
  rfl

theorem about_ledger_of_lists (hlists : config.Lists id) (hbody : config.body? id = some body) :
    about config.ledger (.component id) = (Fate.of .builtin id body).findings id ++
      about config.placementLedger (.component id) := by
  have hdeclared := contains_of_body? hbody
  have hmember : config.members.contains id = true := by
    rw [List.contains_iff_mem, mem_members]
    exact ⟨hlists, hdeclared⟩
  rw [ledger, about_append, about_append, about_fateLedger hlists hbody,
    about_component id hdeclared, hmember]
  rfl

/-- A fate that is not that of an accepted instance leaves its findings alone. -/
theorem about_ledger_of_not_accepted (hlists : config.Lists id)
    (hbody : config.body? id = some body)
    (h : ∀ settings, Fate.of .builtin id body ≠ .accepted settings) :
    (config.placements .builtin).filter (·.accepted.id = id) = [] ∧
      about config.ledger (.component id) = (Fate.of .builtin id body).findings id := by
  have hown := own_of_not_accepted fun _ body' hbody' => by
    obtain rfl := Option.some.inj (hbody.symm.trans hbody')
    exact h
  rw [about_ledger_of_lists hlists hbody, hown.2, List.append_nil]
  exact ⟨hown.1, rfl⟩

theorem leaves_rejected {kind : SourceKind} {settings : ComponentSettings}
    (hlists : config.Lists id) (hbody : config.body? id = some body)
    (hfate : Fate.of .builtin id body = .rejected (Converter.faults kind id settings))
    (hfaults : (Converter.faults kind id settings).hasErrors = true) :
    Outcome.rejected.Leaves id (about config.ledger (.component id))
      ((config.placements .builtin).filter (·.accepted.id = id)) := by
  have hleft := about_ledger_of_not_accepted hlists hbody (by simp [hfate])
  rw [hfate] at hleft
  rw [hleft.2]
  refine ⟨hleft.1, fun hnil => ?_, Converter.concern_faults kind id settings⟩
  have hnone : Converter.faults kind id settings = [] := hnil
  rw [hnone] at hfaults
  exact absurd hfaults (by decide)

theorem leaves_converted {settings : ComponentSettings}
    (hlists : config.Lists id) (hbody : config.body? id = some body)
    (hfate : Fate.of .builtin id body = .accepted settings)
    (hfaults : (Converter.faults settings.kind id settings).hasErrors = false) :
    Outcome.converted.Leaves id (about config.ledger (.component id))
      ((config.placements .builtin).filter (·.accepted.id = id)) := by
  -- all that validation finds are errors, so without errors it finds nothing
  have hnone : Converter.faults settings.kind id settings = [] := by
    rw [(Converter.concern_faults settings.kind id settings).hasErrors_eq] at hfaults
    simpa using hfaults
  obtain ⟨p, hp, hmem, hown⟩ := own_of_accepted hlists hbody hfate
  obtain ⟨losses, hfindings, hlosses⟩ := findings_of_mem_placements hmem
  obtain rfl : p.accepted.id = id := congrArg Accepted.id hp
  refine ⟨p, losses, hown, ?_, hlosses⟩
  rw [about_ledger_of_lists hlists hbody, hfate, about_placementLedger hmem, Fate.findings, hnone,
    hfindings, List.nil_append]

/-- Each fate leaves its trace. -/
theorem leaves_of_applies {o : Outcome} (hbody : config.body? id = some body)
    (h : o.Applies config id body) :
    o.Leaves id (about config.ledger (.component id))
      ((config.placements .builtin).filter (·.accepted.id = id)) := by
  cases o with
  | unused =>
    exact ⟨(own_of_not_accepted fun hlists => absurd hlists h).1, about_ledger_of_not_lists h hbody⟩
  | unsupported =>
    obtain ⟨hlists, htype⟩ := h
    have hfate : Fate.of .builtin id body = .unsupported := by rw [Fate.of_builtin, htype]
    have hleft := about_ledger_of_not_accepted hlists hbody (by simp [hfate])
    rw [hfate] at hleft
    exact hleft
  | undecodable =>
    obtain ⟨hlists, kind, e, htype, he⟩ := h
    have hfate : Fate.of .builtin id body = .undecodable e := by
      rw [Fate.of_builtin, htype]
      dsimp only
      rw [he]
    have hleft := about_ledger_of_not_accepted hlists hbody (by simp [hfate])
    rw [hfate] at hleft
    exact ⟨hleft.1, e.message true, hleft.2⟩
  | rejected =>
    obtain ⟨hlists, kind, settings, htype, hsettings, hfaults⟩ := h
    have hfate := (Fate.of_decoded htype hsettings).trans (if_pos hfaults)
    exact leaves_rejected hlists hbody hfate hfaults
  | converted =>
    obtain ⟨hlists, kind, settings, htype, hsettings, hfaults⟩ := h
    obtain rfl : settings.kind = kind := (ComponentSettings.of_ofBody hsettings).1
    have hfate := (Fate.of_decoded htype hsettings).trans (if_neg (Bool.eq_false_iff.1 hfaults))
    exact leaves_converted hlists hbody hfate hfaults

/-! ## Everything else -/

/-- What stands in the ledger behind the plan is about listed components. -/
theorem component_of_mem_ledger {e : Subject × Diagnostic} (h : e ∈ config.ledger) :
    e ∈ config.planLedger ∨ ∃ id, e.1 = .component id ∧
      (config.components id.cls).contains id.name = true := by
  rw [ledger, List.append_assoc, List.mem_append, List.mem_append] at h
  rcases h with h | h | h
  · exact .inl h
  · obtain ⟨e', he', h⟩ := subject_of_mem h
    obtain ⟨id, hid, he'⟩ := List.mem_filterMap.1 he'
    obtain ⟨body, hbody, rfl⟩ := Option.map_eq_some_iff.1 he'
    exact .inr ⟨id, h, contains_of_body? hbody⟩
  · obtain ⟨p, hp, h⟩ := subject_of_mem h
    obtain ⟨-, body, hbody, -⟩ := of_mem_placements hp
    exact .inr ⟨p.accepted.id, h, contains_of_body? hbody⟩

theorem occurs_of_mem_ledger {e : Subject × Diagnostic} (h : e ∈ config.ledger) :
    config.Occurs e.1 := by
  rcases component_of_mem_ledger h with h | ⟨id, he, hdeclared⟩
  · exact occurs_of_mem_planLedger h
  · rw [he]
    exact hdeclared

/-- Of anything but components only the plan has something to say. -/
theorem about_ledger {s : Subject} (h : ∀ id, s ≠ .component id) :
    about config.ledger s = about config.planLedger s := by
  have hfates : about config.fateLedger s = [] :=
    about_flatMap_on_of_ne fun e _ heq => h e.1 heq.symm
  have hplacements : about config.placementLedger s = [] :=
    about_flatMap_on_of_ne fun p _ heq => h p.accepted.id heq.symm
  rw [ledger, about_append, about_append, hfates, hplacements, List.append_nil, List.append_nil]

/-- The findings of a conversion are accounted for. -/
theorem accounts_ledger (config : Config) :
    config.Accounts (config.placements .builtin) config.ledger where
  occurs _ he := occurs_of_mem_ledger he
  components id body hbody := by
    obtain ⟨o, ho⟩ := exists_outcome config id body
    exact ⟨o, ho, fun o' ho' => outcome_unique ho ho', leaves_of_applies hbody ho⟩
  mentions p hp cls place name hname := by
    rw [about_ledger (by simp), about_mention hp hname]
    cases config.declares cls name <;> rfl
  pipelines name type hname htype := by
    rw [about_ledger (by simp), about_pipeline hname htype]
  extensions name hname := by
    rw [about_ledger (by simp), about_extension hname]
  connectors name hname := by
    rw [about_ledger (by simp), about_connector hname]

/-! ## Labels, references and announcements -/

/-- The labels that a conversion hands out are those of the instances that have blocks. -/
theorem taken_convert (config : Config) :
    (config.convert .builtin .empty).2.taken.reverse.map (fun e => (e.1, some e.2)) =
      (config.placements .builtin).map fun p => p.block.identity := by
  have htaken : (config.convert .builtin .empty).2.taken =
      ((config.labelled .builtin).map fun e => (e.1.kind.component.name, e.2)).reverse ++ [] :=
    Labelling.taken_mapM_fresh _ _ (config.accepted .builtin) .empty
  rw [htaken, List.append_nil, List.reverse_reverse, List.map_map, placements, List.map_map]
  rfl

/-- Where an instance sends its data are inputs of blocks. -/
theorem input_of_mem_next {signal : Signal} {path : String}
    (h : path ∈ (config.wired .builtin).next id signal) :
    ∃ p ∈ config.placements .builtin, p.input? = some (.path (dotted path)) := by
  have hmem : Expr.ofDotted path ∈
      Placement.inputs (config.placements .builtin) (config.followers id signal) := by
    rw [inputs_followers]
    exact List.mem_map_of_mem h
  obtain ⟨target, -, htarget⟩ := List.mem_filterMap.1 hmem
  obtain ⟨p, hfind, hp⟩ := Option.bind_eq_some_iff.1 htarget
  exact ⟨p, List.mem_of_find?_eq_some hfind, hp⟩

/-- Every reference of a document is the input of a block of an instance. -/
theorem input_of_mem_paths {segments : List String}
    (h : segments ∈ References.paths (config.convert .builtin .empty).1.document) :
    ∃ p ∈ config.placements .builtin, p.input? = some (.path segments) := by
  obtain ⟨id, signal, path, hpath, rfl⟩ := next_of_mem_paths h
  exact input_of_mem_next hpath

theorem only_info_planFindings (config : Config) : config.planFindings.only .info = [] := by
  refine Diagnostics.only_eq_nil fun d hd => ?_
  simp only [planFindings, List.mem_append, List.mem_flatMap] at hd
  rcases hd with ((⟨e, -, hd⟩ | ⟨cls, -, hd⟩) | hd) | hd
  · unfold pipelineFindings at hd
    split at hd
    · obtain ⟨cls, -, hd⟩ := List.mem_flatMap.1 hd
      obtain ⟨name, -, rfl⟩ := List.mem_map.1 hd
      exact Severity.noConfusion
    · obtain rfl := List.mem_singleton.1 hd
      exact Severity.noConfusion
  all_goals
    obtain ⟨name, -, rfl⟩ := List.mem_map.1 hd
    exact Severity.noConfusion

end Config

theorem Fate.only_info_findings (registry : Registry) (id : InstanceId) (body : Json) :
    ((Fate.of registry id body).findings id).only .info = [] := by
  unfold Fate.of
  split
  · rfl
  · split
    · rfl
    · dsimp only
      split
      · exact (Converter.concern_faults _ id _).only_eq_nil (by decide)
      · exact (Converter.concern_faults _ id _).only_eq_nil (by decide)

namespace Config

/-- The only findings of the lowest severity name the blocks of the instances, in their order. -/
theorem only_info_convert (config : Config) :
    (config.convert .builtin .empty).1.findings.only .info =
      (config.placements .builtin).map Placement.announcement := by
  have hfates : config.fateLedger.map Prod.snd =
      (config.fates .builtin).flatMap fun e => e.2.findings e.1 := map_snd_flatMap_on
  have hplacements : config.placementLedger.map Prod.snd =
      (config.placements .builtin).flatMap Placement.findings := map_snd_flatMap_on
  have hnone : Diagnostics.only .info
      ((config.fates .builtin).flatMap fun e => e.2.findings e.1) = [] := by
    rw [Diagnostics.only, List.filter_flatMap, List.flatMap_eq_nil_iff]
    intro e he
    obtain ⟨id, -, he⟩ := List.mem_filterMap.1 he
    obtain ⟨body, -, rfl⟩ := Option.map_eq_some_iff.1 he
    exact Fate.only_info_findings .builtin id body
  have hblocks : Diagnostics.only .info ((config.placements .builtin).flatMap Placement.findings) =
      (config.placements .builtin).map Placement.announcement := by
    rw [Diagnostics.only, List.filter_flatMap, List.map_eq_flatMap]
    refine List.flatMap_congr fun p hp => ?_
    obtain ⟨losses, hfindings, hlosses⟩ := findings_of_mem_placements hp
    rw [hfindings, List.filter_append, ← Diagnostics.only, hlosses.only_eq_nil (by decide)]
    rfl
  rw [← map_snd_ledger, ledger, List.map_append, List.map_append, map_snd_planLedger, hfates,
    hplacements, Diagnostics.only_append, Diagnostics.only_append, only_info_planFindings, hnone,
    hblocks]
  rfl

/-- No component of a collector disappears silently. The document is the block for the collector's
own logs, if there is any, and the blocks of the instances. Every declared component meets exactly
one fate: it is not used, it is not supported, its body cannot be decoded, its settings are
unusable, each of which is told, or it has one block, named by one finding. The labels that were
handed out are those of these blocks, references go to these blocks only, and the findings that name
them stand in the order of the document. -/
theorem fates_accounted (config : Config) :
    ∃ (logging : Option Block) (placements : List Placement) (ledger : Ledger),
      let source := SourceConfig.collector config
      let document := (source.standalone .builtin).document
      let findings := (source.convert .builtin).findings
      document = (logging.toList ++ placements.map Placement.block).map Block.statement ∧
      (∀ b ∈ logging, b.name = ["logging"] ∧ b.label = none) ∧
      findings = ledger.map Prod.snd ∧
      config.Accounts placements ledger ∧
      ((source.draft .builtin).run .empty).2.taken.reverse.map (fun e => (e.1, some e.2)) =
        placements.map (fun p => p.block.identity) ∧
      (∀ segments ∈ References.paths document,
        ∃ p ∈ placements, p.input? = some (.path segments)) ∧
      findings.only .info = placements.map Placement.announcement := by
  obtain ⟨logging, hlogging, -, hblock⟩ := logging_eq config.service.telemetry.logs
  have hdraft : (SourceConfig.collector config).standalone .builtin =
      (config.convert .builtin .empty).1 := rfl
  have hfindings : ((SourceConfig.collector config).convert .builtin).findings =
      (config.convert .builtin .empty).1.findings := by
    rw [SourceConfig.convert_eq, hdraft]
  refine ⟨logging, config.placements .builtin, config.ledger, ?_, hblock, ?_, accounts_ledger config,
    taken_convert config, fun _ => input_of_mem_paths, ?_⟩
  · rw [hdraft, Draft.document, blocks_convert, hlogging, placements, List.map_map]
    rfl
  · rw [hfindings, map_snd_ledger]
  · rw [hfindings, only_info_convert]

end Config

end AgentConvert.Collector
