import AgentConvert.LogShipper.Job
import AgentConvert.Proofs.Identity.Basic

/-!
# Identities of a log shipper's blocks

A job has one label for at most one block of each of its kinds, and the blocks that write to the
clients have labels of their own. So a configuration keeps its blocks apart
(`Config.keeps_convertJobs`), from each other and from whatever stands before them.
-/

namespace AgentConvert.LogShipper

namespace Kind

/-- The kinds of the sources other than files, in the order of their blocks. -/
def sources : List ComponentKind := [
  .ofDotted "loki.source.gcplog", .ofDotted "loki.source.gelf", sourceHeroku, sourceApi,
  .ofDotted "loki.source.syslog", .ofDotted "loki.source.cloudflare",
  .ofDotted "loki.source.windowsevent"]

/-- The kinds of a job's blocks, in their order. -/
def ofJob : List ComponentKind :=
  [discoveryRelabel, fileMatch, sourceFile] ++ sources ++ [lokiRelabel, process]

theorem nodup_ofJob : (ofJob.map ComponentKind.name).Nodup := by decide

theorem scopeOf_ofJob : ∀ kind ∈ ofJob, scopeOf kind.name = "" := by decide

end Kind

/-! ## Jobs -/

/-- Optional values that are there keep their order and their places. -/
theorem sublist_filterMap_cons {α β : Type} {o : Option α} {os : List (Option α)} {f : α → β}
    {b : β} {bs : List β} (h : ∀ a ∈ o, f a = b) (hs : ((os.filterMap id).map f).Sublist bs) :
    (((o :: os).filterMap id).map f).Sublist (b :: bs) := by
  cases o with
  | none => exact hs.cons b
  | some a =>
    rw [← h a rfl]
    exact hs.cons_cons (f a)

namespace ScrapeJob

variable {around : Surroundings} {job : ScrapeJob} {label : String}

/-- A job has at most one source of each kind. -/
theorem sublist_sources :
    ((job.sources around label).map SourceBlock.kind).Sublist Kind.sources := by
  unfold sources Kind.sources
  refine sublist_filterMap_cons (fun s hs => ?_) ?_
  · obtain ⟨g, -, hg⟩ := Option.bind_eq_some_iff.1 hs
    obtain ⟨mode, -, rfl⟩ := Option.map_eq_some_iff.1 hg
    rfl
  refine sublist_filterMap_cons (fun s hs => ?_) ?_
  · obtain ⟨g, -, rfl⟩ := Option.map_eq_some_iff.1 hs
    rfl
  refine sublist_filterMap_cons (fun s hs => ?_) ?_
  · obtain ⟨r, -, rfl⟩ := Option.map_eq_some_iff.1 hs
    rfl
  refine sublist_filterMap_cons (fun s hs => ?_) ?_
  · obtain ⟨r, -, rfl⟩ := Option.map_eq_some_iff.1 hs
    rfl
  refine sublist_filterMap_cons (fun s hs => ?_) ?_
  · obtain ⟨l, -, rfl⟩ := Option.map_eq_some_iff.1 hs
    rfl
  refine sublist_filterMap_cons (fun s hs => ?_) ?_
  · obtain ⟨c, -, rfl⟩ := Option.map_eq_some_iff.1 hs
    rfl
  refine sublist_filterMap_cons (fun s hs => ?_) (.refl _)
  obtain ⟨e, -, rfl⟩ := Option.map_eq_some_iff.1 hs
  rfl

theorem identities_sources (around : Surroundings) (job : ScrapeJob) (h : label ≠ "")
    (ss : List SourceBlock) :
    (Draft.concat (ss.map (job.sourceDraft around label))).identities.Sublist
      ((ss.map SourceBlock.kind).map (labelled label)) := by
  rw [Draft.identities_concat]
  induction ss with
  | nil => exact .refl _
  | cons s ss ih =>
    simp only [List.map_cons, List.flatMap_cons]
    exact (Draft.identities_blockWith _ s.kind h _).append ih

theorem identities_draft (h : label ≠ "") :
    (job.draft around label).identities.Sublist (Kind.ofJob.map (labelled label)) := by
  have hrules := (Draft.identities_when job.relabelsTargets (job.targetRules label)).trans
    (Draft.identities_block Kind.discoveryRelabel h _)
  have hfiles : (Draft.when job.readsFiles (job.files around label)).identities.Sublist
      [labelled label Kind.fileMatch, labelled label Kind.sourceFile] := by
    refine (Draft.identities_when _ _).trans ?_
    rw [files, Draft.identities_append]
    exact (Draft.identities_block Kind.fileMatch h _).append
      (Draft.identities_block Kind.sourceFile h _)
  have hsources := (identities_sources around job h (job.sources around label)).trans
    (sublist_sources.map (labelled label))
  have hpulled := (Draft.identities_when job.relabelsPulled (job.pulledRules around label)).trans
    (Draft.identities_block Kind.lokiRelabel h _)
  have hstages := (Draft.identities_when (!job.acceptedStages.isEmpty)
    (job.processing around label)).trans (Draft.identities_block Kind.process h _)
  have hall := (((hrules.append hfiles).append hsources).append hpulled).append hstages
  simpa [draft, Kind.ofJob, Kind.sources] using hall

theorem keeps_convert (around : Surroundings) (job : ScrapeJob) : (job.convert around).Keeps := by
  intro ls ids h
  unfold convert
  cases job.modeFault? with
  | some fault => simpa using h
  | none =>
    have hfresh := h.fresh (labelOfParts [around.labelBase, job.name]) Kind.nodup_ofJob
      Kind.scopeOf_ofJob
    refine hfresh.sublist (.append (.refl _) (identities_draft ?_))
    exact ne_of_isIdentifier (ls.isIdentifier_assign _ _)

end ScrapeJob

/-! ## Configurations -/

namespace Config

theorem identities_writes {cs : List Client} {labels : List String} (h : ∀ l ∈ labels, l ≠ "") :
    (Draft.concat ((cs.zip labels).map fun e => writeDraft e.1 e.2)).identities.Sublist
      ((cs.zip labels).map fun e => labelled e.2 Kind.write) := by
  rw [Draft.identities_concat]
  induction cs generalizing labels with
  | nil => exact .refl _
  | cons c cs ih =>
    cases labels with
    | nil => exact .refl _
    | cons label labels =>
      simp only [List.zip_cons_cons, List.map_cons, List.flatMap_cons]
      exact (Draft.identities_block Kind.write (h label (List.mem_cons_self ..)) _).append
        (ih fun l hl => h l (List.mem_cons_of_mem _ hl))

/-- The labels of the clients are handed out before the jobs are converted, and their blocks stand
behind the blocks of the jobs. -/
theorem keeps_convertJobs (labelBase : String) (config : Config) :
    (config.convertJobs labelBase).Keeps := by
  intro ls ids h
  let base := if labelBase = "" then "default" else labelBase
  let labels := (config.clients.mapM (fun _ => Labelling.fresh Kind.write.name base) ls).1
  let around : Surroundings := {
    labelBase
    writers := labels.map fun label => Kind.write.exportPath label "receiver"
    syncPeriod := config.target.syncPeriod
    positionsFile := config.positions.filename }
  have hlabels : ∀ label ∈ labels, label ≠ "" := fun label hlabel => ne_of_isIdentifier
    (Labelling.yields_mapM (fun _ _ => Labelling.yields_fresh Kind.write.name base) ls label hlabel)
  have hwrites := h.mapM_fresh (fun _ => Kind.write) (fun _ => base)
    fun client (_ : client ∈ config.clients) => by decide
  have hjobs := Labelling.keeps_mapM
    (fun job (_ : job ∈ config.jobs) => ScrapeJob.keeps_convert around job) hwrites
  refine hjobs.swap.sublist (.append (.refl _) ?_)
  show (Draft.report config.findings ++ _ ++ _).identities.Sublist _
  rw [Draft.identities_append, Draft.identities_append, Draft.identities_report, List.nil_append]
  exact .append (.refl _) (identities_writes hlabels)

/-- A log shipper's blocks are covered, behind the one block without a label. -/
theorem covers_convert (config : Config) :
    let r := config.convert .empty
    r.2.Covers r.1.identities := by
  have hlogging := (Labels.covers_unlabelled (.ofDotted "logging")).sublist
    (Draft.identities_unlabelled (.ofDotted "logging") config.server.logging?)
  simpa [convert] using keeps_convertJobs "" config hlogging

end Config

end AgentConvert.LogShipper
