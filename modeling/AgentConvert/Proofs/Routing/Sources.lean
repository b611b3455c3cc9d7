import AgentConvert.Proofs.Argument.Attributes
import AgentConvert.Proofs.LogShipper.Fields

/-!
# Where the logs of a job come from

The sources that a job can have, with the kinds of their blocks. A source forwards to where its job
says: a source that pulls through the job's rules, any other right to the stages or the clients
(`Source.forwards_block?`). Sources that are pushed to apply the job's rules themselves, and they
are the only ones to (`Source.applies_block?`).
-/

namespace AgentConvert.LogShipper

open Argument

/-- Where the logs of a job come from. -/
inductive Source where
  | files
  | subscription
  | gelf
  | heroku
  | api
  | syslog
  | cloudflare
  | eventLog
  deriving DecidableEq

namespace Source

/-- The sources other than files, in the order of their blocks. -/
def others : List Source := [subscription, gelf, heroku, api, syslog, cloudflare, eventLog]

/-- The sources in the order of their blocks. -/
def all : List Source := files :: others

/-- The kind of the block that forwards what comes from the source. -/
def kind : Source → ComponentKind
  | files => Kind.sourceFile
  | subscription => .ofDotted "loki.source.gcplog"
  | gelf => .ofDotted "loki.source.gelf"
  | heroku => Kind.sourceHeroku
  | api => Kind.sourceApi
  | syslog => .ofDotted "loki.source.syslog"
  | cloudflare => .ofDotted "loki.source.cloudflare"
  | eventLog => .ofDotted "loki.source.windowsevent"

/-- Whether the job has the source. -/
def isIn (job : ScrapeJob) : Source → Bool
  | files => job.readsFiles
  | subscription => job.subscription.isSome
  | gelf => job.gelf.isSome
  | heroku => job.herokuDrain.isSome
  | api => job.pushApi.isSome
  | syslog => job.syslog.isSome
  | cloudflare => job.cloudflare.isSome
  | eventLog => job.eventLog.isSome

/-- Whether the source pulls. -/
def pulls : Source → Bool
  | cloudflare | eventLog => true
  | _ => false

/-- Whether the source is pushed to. -/
def isPushedTo : Source → Bool
  | files | cloudflare | eventLog => false
  | _ => true

theorem mem_all (s : Source) : s ∈ all := by
  cases s <;> decide

end Source

/-! ## Outlets -/

namespace Outlet

variable {f : Special → Expr} {before : Fields}

/-- Whether a block with these fields forwards to the receivers of the outlet and applies its
rules. -/
structure Feeds (f : Special → Expr) (o : Outlet) (fields : Fields) : Prop where
  forwards : Body.attribute? (parts f fields) "forward_to" =
    some (.array (o.receivers.map fun path => f (.reference path)))
  applies : Body.attribute? (parts f fields) "relabel_rules" =
    o.rules.map fun hole => f (.placeholder hole)

/-- The outlet may stand behind fields that have nothing to do with it. -/
theorem feeds_behind (o : Outlet) (h : AreParts (Special.Uses [] []) before)
    (hforward : Lacks "forward_to" before) (hrules : Lacks "relabel_rules" before) :
    o.Feeds f (before ++ o.forwardTo ++ o.relabelRules) := by
  have hpartsForward : AreParts (Special.Uses o.receivers []) o.forwardTo := by simp
  have hpartsRules : AreParts (Special.Uses [] o.rules.toList) o.relabelRules := by simp
  constructor
  · rw [attribute?_drop _ hpartsRules (by simp (disch := decide) [relabelRules]),
      attribute?_skip _ h hforward]
    exact attribute?_references _
  · rw [List.append_assoc, attribute?_skip _ h hrules,
      attribute?_skip _ hpartsForward (by simp (disch := decide) [forwardTo])]
    exact attribute?_optional_placeholder _

/-- The outlet may stand the other way round. -/
theorem feeds_behind_swap (o : Outlet) (h : AreParts (Special.Uses [] []) before)
    (hforward : Lacks "forward_to" before) (hrules : Lacks "relabel_rules" before) :
    o.Feeds f (before ++ o.relabelRules ++ o.forwardTo) := by
  have hpartsForward : AreParts (Special.Uses o.receivers []) o.forwardTo := by simp
  have hpartsRules : AreParts (Special.Uses [] o.rules.toList) o.relabelRules := by simp
  constructor
  · rw [List.append_assoc, attribute?_skip _ h hforward,
      attribute?_skip _ hpartsRules (by simp (disch := decide) [relabelRules])]
    exact attribute?_references _
  · rw [attribute?_drop _ hpartsForward (by simp (disch := decide) [forwardTo]),
      attribute?_skip _ h hrules]
    exact attribute?_optional_placeholder _

end Outlet

/-- Where the sources of the job that are pushed to forward, and the rules that they apply. -/
def ScrapeJob.outlet (around : Surroundings) (job : ScrapeJob) (label : String) : Outlet :=
  ⟨job.receivers around label, if job.relabelsTargets then some .relabelRules else none⟩

namespace Source

variable {around : Surroundings} {job : ScrapeJob} {label : String} {f : Special → Expr}

/-! ## Blocks of sources -/

/-- What becomes the block of the source; the block for files is none of these. -/
def block? (around : Surroundings) (job : ScrapeJob) (label : String) : Source → Option SourceBlock
  | files => none
  | subscription => job.subscription.bind fun s => s.mode?.map fun mode =>
    s.block mode job.context (job.outlet around label)
  | gelf => job.gelf.map fun g => g.block (job.outlet around label)
  | heroku => job.herokuDrain.map fun r =>
    r.block Kind.sourceHeroku job.context (job.outlet around label)
  | api => job.pushApi.map fun r =>
    r.block Kind.sourceApi job.context (job.outlet around label)
  | syslog => job.syslog.map fun l => l.block (job.outlet around label)
  | cloudflare => job.cloudflare.map fun c => c.block
  | eventLog => job.eventLog.map fun e => e.block

/-- A job has the blocks of its sources, in order. -/
theorem sources_eq (around : Surroundings) (job : ScrapeJob) (label : String) :
    job.sources around label = others.filterMap (block? around job label) := by
  have hmap : [block? around job label subscription, block? around job label gelf,
      block? around job label heroku, block? around job label api, block? around job label syslog,
      block? around job label cloudflare, block? around job label eventLog] =
      others.map (block? around job label) := rfl
  have hcomp : id ∘ block? around job label = block? around job label := rfl
  rw [← hcomp, ← List.filterMap_map, ← hmap]
  rfl

theorem kind_block? {s : Source} {b : SourceBlock} (h : b ∈ s.block? around job label) :
    b.kind = s.kind := by
  cases s with
  | files => exact absurd h (by simp [block?])
  | subscription =>
    obtain ⟨g, -, hg⟩ := Option.bind_eq_some_iff.1 h
    obtain ⟨mode, -, rfl⟩ := Option.map_eq_some_iff.1 hg
    rfl
  | gelf | heroku | api | syslog | cloudflare | eventLog =>
    obtain ⟨settings, -, rfl⟩ := Option.map_eq_some_iff.1 h
    rfl

/-- The fields of a server have nothing to do with an outlet. -/
theorem lacks_arguments {name : String} (hhttp : name ≠ "http") (hgrpc : name ≠ "grpc")
    (htimeout : name ≠ "graceful_shutdown_timeout") (s : ServerSettings) :
    Lacks name s.arguments := by
  simp [ServerSettings.arguments, ServerSettings.blockUnlessEmpty, ServerSettings.httpFields,
    ServerSettings.grpcFields, hhttp, hgrpc, htimeout]

theorem lacks_modeFields {name : String} (hpull : name ≠ "pull") (hpush : name ≠ "push")
    (s : Subscription) (mode : SubscriptionMode) : Lacks name (s.modeFields mode) := by
  cases mode <;> simp [Subscription.modeFields, hpull, hpush]

/-- A source that is pushed to feeds the job's outlet. -/
theorem feeds_block? {s : Source} (hs : s.isPushedTo = true) {b : SourceBlock}
    (h : b ∈ s.block? around job label) : (job.outlet around label).Feeds f b.arguments := by
  cases s with
  | files | cloudflare | eventLog => exact absurd hs Bool.false_ne_true
  | subscription =>
    obtain ⟨g, -, hg⟩ := Option.bind_eq_some_iff.1 h
    obtain ⟨mode, -, rfl⟩ := Option.map_eq_some_iff.1 hg
    exact Outlet.feeds_behind _ (by simp) (lacks_modeFields (by decide) (by decide) g mode)
      (lacks_modeFields (by decide) (by decide) g mode)
  | gelf =>
    obtain ⟨g, -, rfl⟩ := Option.map_eq_some_iff.1 h
    exact Outlet.feeds_behind_swap _ (by simp) (by simp (disch := decide))
      (by simp (disch := decide))
  | heroku | api =>
    obtain ⟨r, -, rfl⟩ := Option.map_eq_some_iff.1 h
    exact Outlet.feeds_behind _ (by simp)
      (by simp (disch := decide) [lacks_arguments]) (by simp (disch := decide) [lacks_arguments])
  | syslog =>
    obtain ⟨l, -, rfl⟩ := Option.map_eq_some_iff.1 h
    exact Outlet.feeds_behind _ (by simp) (by simp (disch := decide)) (by simp (disch := decide))

/-- A source that pulls forwards to where the job says, and applies no rules of its own. -/
theorem forwards_block? {s : Source} (hs : s.pulls = true) {b : SourceBlock}
    (h : b ∈ s.block? around job label) :
    Body.attribute? (parts f b.arguments) "forward_to" = some (f (.placeholder .logsReceivers)) ∧
      Body.attribute? (parts f b.arguments) "relabel_rules" = none := by
  have hparts : AreParts (Special.Uses [] [.logsReceivers]) b.arguments := by
    cases s with
    | cloudflare =>
      obtain ⟨c, -, rfl⟩ := Option.map_eq_some_iff.1 h
      simp [CloudflareSource.block]
    | eventLog =>
      obtain ⟨e, -, rfl⟩ := Option.map_eq_some_iff.1 h
      simp [EventLogSource.block]
    | _ => exact absurd hs Bool.false_ne_true
  cases s with
  | cloudflare =>
    obtain ⟨c, -, rfl⟩ := Option.map_eq_some_iff.1 h
    refine ⟨?_, attribute?_parts_of_lacks hparts ?_⟩
    · rw [CloudflareSource.block, attribute?_skip _ ((areParts_append _ _).1 hparts).1
        (by simp (disch := decide))]
      exact attribute?_placeholder _
    · simp (disch := decide) [CloudflareSource.block, forwardToJob]
  | eventLog =>
    obtain ⟨e, -, rfl⟩ := Option.map_eq_some_iff.1 h
    refine ⟨?_, attribute?_parts_of_lacks hparts ?_⟩
    · rw [EventLogSource.block, attribute?_drop _ ((areParts_append _ _).1 hparts).2
        (by simp (disch := decide)), attribute?_skip _
        ((areParts_append _ _).1 ((areParts_append _ _).1 hparts).1).1 (by simp (disch := decide))]
      exact attribute?_placeholder _
    · simp (disch := decide) [EventLogSource.block, forwardToJob]
  | _ => exact absurd hs Bool.false_ne_true

end Source

end AgentConvert.LogShipper
