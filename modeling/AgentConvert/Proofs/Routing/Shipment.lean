import AgentConvert.Agent.Logs
import AgentConvert.Proofs.Identity.Basic
import AgentConvert.Proofs.Routing.Job

/-!
# Log shippers in a document

A configuration of a log shipper hands out one label for each client and one for each job that it
converts, and each of these labels stands for a part of its blocks (`Shipment.parts`). What a
configuration comes to is such a shipment (`Config.ships_convertJobs`), one for each log shipper
that an agent embeds (`LogsSection.ships_convert`).
-/

namespace AgentConvert

/-! ## Work that comes in pieces -/

namespace Labelling

variable {γ κ α : Type}

/-- Whether work comes to pieces with these keys, one behind the other, and hands out exactly the
labels of the pieces. -/
def Delivers (w : Labelling Draft) (blocks : γ → List Block)
    (labels : γ → List (String × String)) (ok : γ → Prop) (key : γ → κ) (keys : List κ) : Prop :=
  ∀ ls, ∃ cs : List γ, cs.map key = keys ∧ (∀ c ∈ cs, ok c) ∧
    (w ls).1.blocks = cs.flatMap blocks ∧ ls.Extends (cs.flatMap labels) (w ls).2

variable {blocks : γ → List Block} {labels : γ → List (String × String)} {ok : γ → Prop}
  {key : γ → κ}

theorem delivers_mapM {f : α → Labelling Draft} {keys : α → List κ} {as : List α}
    (h : ∀ a ∈ as, (f a).Delivers blocks labels ok key (keys a)) :
    (Draft.concat <$> as.mapM f).Delivers blocks labels ok key (as.flatMap keys) := by
  induction as with
  | nil => exact fun ls => ⟨[], rfl, by simp, by simp, by simpa using .refl ls⟩
  | cons a as ih =>
    intro ls
    obtain ⟨cs, hkeys, hok, hblocks, hlabels⟩ := h a (List.mem_cons_self ..) ls
    obtain ⟨cs', hkeys', hok', hblocks', hlabels'⟩ :=
      ih (fun b hb => h b (List.mem_cons_of_mem _ hb)) (f a ls).2
    refine ⟨cs ++ cs', ?_, ?_, ?_, ?_⟩
    · rw [List.map_append, hkeys, hkeys', List.flatMap_cons]
    · exact List.forall_mem_append.2 ⟨hok, hok'⟩
    · simpa [hblocks] using hblocks'
    · simpa using hlabels.trans hlabels'

end Labelling

namespace LogShipper

/-! ## Shipments -/

/-- A configuration of a log shipper with the labels that are handed out for it. -/
structure Shipment where
  config : Config
  /-- What the labels of its jobs begin with. -/
  labelBase : String
  /-- The labels of the blocks that write to its clients, in the order of these. -/
  writeLabels : List String
  /-- The jobs that are converted, in order, each with its label. -/
  jobs : List (ScrapeJob × String)

namespace Shipment

/-- What its jobs share. -/
def around (s : Shipment) : Surroundings where
  labelBase := s.labelBase
  writers := s.writeLabels.map fun label => Kind.write.exportPath label "receiver"
  syncPeriod := s.config.target.syncPeriod
  positionsFile := s.config.positions.filename

/-- The block that writes to a client. -/
def write (client : Client) (label : String) : Block :=
  ⟨Kind.write.segments, some label, Argument.parts Special.render client.arguments⟩

/-- The blocks that write to its clients, one for each. -/
def writes (s : Shipment) : List Block :=
  (s.config.clients.zip s.writeLabels).map fun e => write e.1 e.2

/-- The parts of its blocks, each with the scope and the label that stand for it. -/
def parts (s : Shipment) : List ((String × String) × List Block) :=
  (s.jobs.map fun e => (("", e.2), (e.1.draft s.around e.2).blocks)) ++
  (s.config.clients.zip s.writeLabels).map fun e => ((Kind.write.name, e.2), [write e.1 e.2])

/-- Its blocks. -/
def blocks (s : Shipment) : List Block := s.parts.flatMap Prod.snd

/-- The labels handed out for it, each with its scope. -/
def labels (s : Shipment) : List (String × String) := s.parts.map Prod.fst

theorem blocks_eq (s : Shipment) :
    s.blocks = (s.jobs.flatMap fun e => (e.1.draft s.around e.2).blocks) ++ s.writes := by
  rw [blocks, parts, List.flatMap_append, List.flatMap_map, List.flatMap_map, writes,
    List.map_eq_flatMap]

theorem labels_eq (s : Shipment) : s.labels = (s.jobs.flatMap fun e => [("", e.2)]) ++
    (s.config.clients.zip s.writeLabels).map fun e => (Kind.write.name, e.2) := by
  rw [labels, parts, List.map_append, List.map_map, List.map_map, ← List.map_eq_flatMap]
  rfl

/-- Whether the shipment has a label for each client and for each job that can be converted, and
all of them are identifiers. -/
structure IsLabelled (s : Shipment) : Prop where
  clients : s.writeLabels.length = s.config.clients.length
  jobs : s.jobs.map Prod.fst = s.config.jobs.filter (·.modeFault?.isNone)
  identifiers : (∀ l ∈ s.writeLabels, isIdentifier l = true) ∧
    ∀ e ∈ s.jobs, isIdentifier e.2 = true

end Shipment

/-! ## Converting -/

variable {around : Surroundings}

/-- A job is converted under a label of its own, unless its subscription names no mode. -/
theorem ScrapeJob.delivers_convert (around : Surroundings) (job : ScrapeJob) :
    (job.convert around).Delivers (fun e : ScrapeJob × String => (e.1.draft around e.2).blocks)
      (fun e => [("", e.2)]) (fun e => isIdentifier e.2 = true) Prod.fst
      ([job].filter (·.modeFault?.isNone)) := by
  intro ls
  unfold convert
  cases hmode : job.modeFault? with
  | some fault => exact ⟨[], by simp [hmode], by simp, by simp, by simpa using .refl ls⟩
  | none =>
    let base := labelOfParts [around.labelBase, job.name]
    refine ⟨[(job, (ls.assign "" base).1)], by simp [hmode], ?_, by simp [base], ?_⟩
    · simpa using ls.isIdentifier_assign "" base
    · simpa using ls.extends_assign "" base

theorem Config.blocks_writes (cs : List Client) {labels : List String}
    (h : ∀ l ∈ labels, l ≠ "") :
    (Draft.concat ((cs.zip labels).map fun e => writeDraft e.1 e.2)).blocks =
      (cs.zip labels).map fun e => Shipment.write e.1 e.2 := by
  rw [Draft.blocks_concat, List.flatMap_map, List.map_eq_flatMap]
  refine List.flatMap_congr fun e he => ?_
  exact Draft.blocks_labelled (areParts_write [] e.1) Kind.write (h e.2 (List.of_mem_zip he).2)

/-- The configuration of a log shipper comes to a shipment. -/
theorem Config.delivers_convertJobs (labelBase : String) (config : Config) :
    (config.convertJobs labelBase).Delivers Shipment.blocks Shipment.labels Shipment.IsLabelled
      Shipment.config [config] := by
  intro ls
  let base := if labelBase = "" then "default" else labelBase
  let r := config.clients.mapM (fun _ => Labelling.fresh Kind.write.name base) ls
  let around : Surroundings := {
    labelBase
    writers := r.1.map fun label => Kind.write.exportPath label "receiver"
    syncPeriod := config.target.syncPeriod
    positionsFile := config.positions.filename }
  have hidentifiers : ∀ label ∈ r.1, isIdentifier label = true :=
    Labelling.yields_mapM (fun _ _ => Labelling.yields_fresh Kind.write.name base) ls
  have hwrites := Labelling.extends_mapM_fresh (fun _ => Kind.write.name) (fun _ => base)
    config.clients ls
  obtain ⟨jobs, hkeys, hok, hblocks, hlabels⟩ := Labelling.delivers_mapM
    (fun job (_ : job ∈ config.jobs) => ScrapeJob.delivers_convert around job) r.2
  let s : Shipment := ⟨config, labelBase, r.1, jobs⟩
  refine ⟨[s], rfl, ?_, ?_, ?_⟩
  · refine List.forall_mem_singleton.2 ⟨Labelling.length_mapM _ _ _, ?_, hidentifiers, hok⟩
    rw [hkeys, ← List.filter_flatMap, List.flatMap_singleton']
  · have hdrafts : (Draft.concat ((config.clients.zip r.1).map fun e =>
        writeDraft e.1 e.2)).blocks = s.writes :=
      blocks_writes config.clients fun l hl => ne_of_isIdentifier (hidentifiers l hl)
    have hblocks : (Draft.concat (config.jobs.mapM (·.convert around) r.2).1).blocks =
        jobs.flatMap fun e => (e.1.draft s.around e.2).blocks := hblocks
    show (Draft.report config.findings ++ _ ++ _).blocks = _
    rw [Draft.blocks_append, Draft.blocks_append, Draft.blocks_report, List.nil_append,
      List.flatMap_singleton, Shipment.blocks_eq]
    exact congr (congrArg _ hblocks) hdrafts
  · have hall := hwrites.trans hlabels
    rw [List.flatMap_singleton, Shipment.labels_eq]
    exact hall.perm List.perm_append_comm

end LogShipper

end AgentConvert
