import AgentConvert.Proofs.Embedding.Logs
import AgentConvert.Proofs.Routing.Routed

/-!
# Labels of log sources

What a job configures as the labels of a source stands in the source's block, or in the nested block
of its mode or of its listener (`Source.hasLabel_block?`), and the labels of listed targets stand on
each of the targets (`TargetGroup.exists_mem_listed_iff`). Two kinds of labels have no place: those
of a listener for datagrams, whose block has no attribute for them, and those of a group without
targets. So a job keeps its labels exactly if all of them have a place
(`ScrapeJob.keepsLabels_iff`). Labels without a place are lost without a word: neither the document
nor the findings depend on them (`SourceConfig.standalone_withoutLost`).
-/

namespace AgentConvert

open Argument

/-! ## Labels in blocks -/

namespace Block

/-- Whether an attribute of the block gives the label this value. -/
def Carries (b : Block) (l : String × String) : Prop :=
  ∃ labels, b.attribute? "labels" = some (.object labels) ∧ (l.1, .str l.2) ∈ labels

/-- Whether the block or a block right inside it gives the label this value. -/
def HasLabel (b : Block) (l : String × String) : Prop :=
  ∃ c ∈ b :: b.blocks, c.Carries l

end Block

section

variable {p : Special → Prop} {f : Special → Expr} {d : Dictionary String}
  {fields : Fields} {name : List String} {label : Option String}
  {l : String × String}

theorem expr_labels (d : Dictionary String) :
    (labels d).expr f = .object (d.entries.map fun e => (e.1, .str e.2)) := by
  have hfields : ∀ entries : List (String × String),
      fieldExprs f (entries.map fun e => (e.1, .text e.2)) =
        entries.map fun e => (e.1, .str e.2) := fun entries => by
    induction entries with
    | nil => rfl
    | cons e entries ih => exact congrArg (_ :: ·) ih
  rw [labels, expr, hfields]

/-- Labels among fields of other names are labels of the block. -/
theorem carries_between {before after : Fields}
    (heq : fields = before ++ Field.unlessEmpty "labels" d ++ after) (hparts : AreParts p fields)
    (hbefore : Lacks "labels" before) (hafter : Lacks "labels" after) (h : l ∈ d.entries) :
    Block.Carries ⟨name, label, parts f fields⟩ l := by
  have hempty : d.isEmpty = false := by
    rw [Dictionary.isEmpty, List.isEmpty_eq_false_iff]
    exact List.ne_nil_of_mem h
  have hvalue : (labels d).IsValue fun _ => True := isPart_labels d
  rw [heq, areParts_append, areParts_append] at hparts
  refine ⟨d.entries.map fun e => (e.1, .str e.2), ?_, List.mem_map.2 ⟨l, h, rfl⟩⟩
  rw [Block.attribute?_mk, heq, attribute?_drop _ hparts.2 hafter,
    attribute?_skip _ hparts.1.1 hbefore, Field.unlessEmpty, hempty, ← expr_labels]
  exact attribute?_always hvalue rfl

/-- The first field of a block may be a nested block with labels. -/
theorem hasLabel_of_nested {field : String} (rest : Fields)
    (h : Block.Carries ⟨dotted field, none, parts f fields⟩ l) :
    Block.HasLabel ⟨name, label, parts f (Field.always field (.blockOf fields) ++ rest)⟩ l := by
  refine ⟨_, List.mem_cons_of_mem _ ?_, h⟩
  rw [Block.blocks_mk, parts_append, Body.blocks_append]
  exact List.mem_append_left _ (List.mem_singleton_self _)

/-- Fields with values have no labels if none of them has this name. -/
theorem not_hasLabel (hvalues : AreFieldValues p fields) (hlacks : Lacks "labels" fields) :
    ¬ Block.HasLabel ⟨name, label, parts f fields⟩ l := by
  have hparts := areParts_of_areFieldValues hvalues
  rintro ⟨c, hc, labels, hlabels, -⟩
  rw [Block.blocks_mk, blocks_parts_values f hvalues, List.mem_singleton] at hc
  rw [hc, Block.attribute?_mk, attribute?_parts_of_lacks hparts hlacks] at hlabels
  exact absurd hlabels (by simp)

end

namespace LogShipper

/-! ## Labels of sources -/

/-- The labels that the job configures for a source. -/
def Source.labels (job : ScrapeJob) : Source → List (String × String)
  | files => []
  | subscription => job.subscription.elim [] (·.labels.entries)
  | gelf => job.gelf.elim [] (·.labels.entries)
  | heroku => job.herokuDrain.elim [] (·.labels.entries)
  | api => job.pushApi.elim [] (·.labels.entries)
  | syslog => job.syslog.elim [] (·.labels.entries)
  | cloudflare => job.cloudflare.elim [] (·.labels.entries)
  | eventLog => job.eventLog.elim [] (·.labels.entries)

namespace Source

variable {around : Surroundings} {job : ScrapeJob} {label own : String} {path : List String}
  {f : Special → Expr} {b : SourceBlock} {l : String × String}

theorem isIn_of_mem_labels {s : Source} (h : l ∈ s.labels job) : s.isIn job = true := by
  have hsome : ∀ {α : Type} {g : α → List (String × String)} (o : Option α),
      l ∈ o.elim [] g → o.isSome = true := fun o h => by
    cases o with
    | none => exact absurd h List.not_mem_nil
    | some a => rfl
  cases s with
  | files => exact absurd h List.not_mem_nil
  | subscription | gelf | heroku | api | syslog | cloudflare | eventLog => exact hsome _ h

/-- Either mode of a subscription has its labels. -/
theorem hasLabel_subscription {g : Subscription} (mode : SubscriptionMode) (context : String)
    (o : Outlet) (h : l ∈ g.labels.entries) :
    Block.HasLabel ⟨path, some own, parts f (g.block mode context o).arguments⟩ l := by
  have hswitches : Lacks "labels" (Field.whenOn "use_incoming_timestamp" g.useIncomingTimestamp ++
      Field.whenOn "use_full_line" g.useFullLine) := by simp (disch := decide)
  show Block.HasLabel ⟨_, _, parts f (g.modeFields mode ++ _ ++ _)⟩ l
  rw [List.append_assoc]
  cases mode with
  | pull =>
    have hproject : Lacks "labels" (Field.optional "project_id" .text g.projectId ++
        Field.optional "subscription" .text g.subscription) := by simp (disch := decide)
    refine hasLabel_of_nested _
      (carries_between (p := Special.Uses [] []) ?_ ?_ hproject hswitches h)
    · simp [Subscription.sharedFields]
    · simp [Subscription.sharedFields]
  | push =>
    have hserver : Lacks "labels" (g.server.arguments ++
        Field.optional "push_timeout" .duration g.pushTimeout) := by
      simp (disch := decide) [lacks_arguments]
    refine hasLabel_of_nested _
      (carries_between (p := Special.Uses [] []) ?_ ?_ hserver hswitches h)
    · simp [Subscription.sharedFields]
    · simp [Subscription.sharedFields]

/-- The block of a server that logs are pushed to has its labels. -/
theorem carries_receiver {r : PushReceiver} (kind : ComponentKind) (context : String) (o : Outlet)
    (h : l ∈ r.labels.entries) :
    Block.Carries ⟨path, some own, parts f (r.block kind context o).arguments⟩ l := by
  have hserver : Lacks "labels" r.server.arguments :=
    lacks_arguments (by decide) (by decide) (by decide) r.server
  have hparts : AreParts (Special.Uses o.receivers o.rules.toList)
      (r.block kind context o).arguments := by simp [PushReceiver.block]
  have hafter : Lacks "labels" (Field.whenOn "use_incoming_timestamp" r.useIncomingTimestamp ++
      o.forwardTo ++ o.relabelRules) := by
    simp (disch := decide) [Outlet.forwardTo, Outlet.relabelRules]
  exact carries_between (by simp [PushReceiver.block]) hparts hserver hafter h

/-- The listener for syslog messages has its labels. -/
theorem hasLabel_listener {r : SyslogListener} (o : Outlet) (h : l ∈ r.labels.entries) :
    Block.HasLabel ⟨path, some own, parts f (r.block o).arguments⟩ l := by
  have hbefore : Lacks "labels" (Field.optional "address" .text r.listenAddress ++
      Field.optional "protocol" .text r.listenProtocol ++
      Field.optional "idle_timeout" .duration r.idleTimeout ++
      Field.whenOn "label_structured_data" r.labelStructuredData) := by simp (disch := decide)
  have hafter : Lacks "labels" (Field.whenOn "use_incoming_timestamp" r.useIncomingTimestamp ++
      Field.whenOn "use_rfc5424_message" r.useRfc5424Message ++
      Field.optional "max_message_length" .uint64 r.maxMessageLength ++
      Field.optional "tls_config" TlsSettings.block r.tls) := by simp (disch := decide)
  show Block.HasLabel ⟨_, _, parts f (_ ++ _ ++ _)⟩ l
  rw [List.append_assoc]
  refine hasLabel_of_nested _ (carries_between (p := Special.Uses [] []) ?_ ?_ hbefore hafter h)
  · simp
  · simp

/-- The block of a content delivery network has its labels. -/
theorem carries_cloudflare {c : CloudflareSource} (h : l ∈ c.labels.entries) :
    Block.Carries ⟨path, some own, parts f c.block.arguments⟩ l := by
  have hparts : AreParts (Special.Uses [] [.logsReceivers]) c.block.arguments := by
    simp [CloudflareSource.block]
  have hbefore : Lacks "labels" (Field.always "api_token" (.secret c.apiToken) ++
      Field.optional "zone_id" .text c.zoneId) := by simp (disch := decide)
  have hafter : Lacks "labels" (Field.optional "workers" .uint32 c.workers ++
      Field.optional "pull_range" .duration c.pullRange ++
      Field.optional "fields_type" .text c.fieldsType ++ forwardToJob) := by
    simp (disch := decide) [forwardToJob]
  exact carries_between (by simp [CloudflareSource.block]) hparts hbefore hafter h

/-- The block of an event log has its labels, behind all other fields. -/
theorem carries_eventLog {e : EventLogSource} (h : l ∈ e.labels.entries) :
    Block.Carries ⟨path, some own, parts f e.block.arguments⟩ l := by
  have hparts : AreParts (Special.Uses [] [.logsReceivers]) e.block.arguments := by
    simp [EventLogSource.block]
  refine carries_between (List.append_nil _).symm hparts ?_ lacks_nil h
  simp (disch := decide) [forwardToJob]

/-- The labels of a source stand in its block; a listener for datagrams has no place for them. -/
theorem hasLabel_block? {s : Source} (hs : s ≠ .gelf) (hb : b ∈ s.block? around job label)
    (h : l ∈ s.labels job) :
    Block.HasLabel ⟨b.kind.segments, some own, parts f b.arguments⟩ l := by
  cases s with
  | files => exact absurd h List.not_mem_nil
  | gelf => exact absurd rfl hs
  | subscription =>
    obtain ⟨g, hg, hmode⟩ := Option.bind_eq_some_iff.1 hb
    obtain ⟨mode, -, rfl⟩ := Option.map_eq_some_iff.1 hmode
    rw [labels, hg] at h
    exact hasLabel_subscription mode _ _ h
  | heroku | api =>
    obtain ⟨r, hr, rfl⟩ := Option.map_eq_some_iff.1 hb
    rw [labels, hr] at h
    exact ⟨_, List.mem_cons_self .., carries_receiver _ _ _ h⟩
  | syslog =>
    obtain ⟨r, hr, rfl⟩ := Option.map_eq_some_iff.1 hb
    rw [labels, hr] at h
    exact hasLabel_listener _ h
  | cloudflare =>
    obtain ⟨c, hc, rfl⟩ := Option.map_eq_some_iff.1 hb
    rw [labels, hc] at h
    exact ⟨_, List.mem_cons_self .., carries_cloudflare h⟩
  | eventLog =>
    obtain ⟨e, he, rfl⟩ := Option.map_eq_some_iff.1 hb
    rw [labels, he] at h
    exact ⟨_, List.mem_cons_self .., carries_eventLog h⟩

/-- The block of a listener for datagrams has no labels. -/
theorem not_hasLabel_gelf (hb : b ∈ Source.gelf.block? around job label) :
    ¬ Block.HasLabel ⟨b.kind.segments, some own, parts f b.arguments⟩ l := by
  obtain ⟨g, -, rfl⟩ := Option.map_eq_some_iff.1 hb
  have hhole : ∀ hole : Placeholder, (placeholder hole).IsValue fun _ => True := fun hole =>
    ⟨⟨hole, rfl⟩, trivial⟩
  refine not_hasLabel (p := fun _ => True) ?_ ?_
  · simp [GelfListener.block, Outlet.forwardTo, Outlet.relabelRules, IsValue, hhole,
      isValue_references]
  · simp (disch := decide) [GelfListener.block, Outlet.forwardTo, Outlet.relabelRules]

end Source

/-! ## Labels of targets -/

end LogShipper

/-- Besides the address, a listed target has the labels of its group. -/
theorem TargetGroup.exists_mem_listed_iff {groups : List TargetGroup} {l : String × String}
    (hl : l.1 ≠ addressLabel) : (∃ t ∈ listed groups, l ∈ t) ↔
      ∃ g ∈ groups, g.targets ≠ [] ∧ l ∈ g.labels.entries := by
  have htarget : ∀ address labels, l ∈ target address labels ↔ l ∈ labels.entries :=
    fun address labels => by
      have hne : l ≠ (addressLabel, address) := fun heq => hl (congrArg Prod.fst heq)
      rw [target, List.mem_cons, List.mem_filter]
      simp [hne, hl]
  constructor
  · rintro ⟨t, ht, hmem⟩
    obtain ⟨g, hg, ht⟩ := List.mem_flatMap.1 ht
    obtain ⟨address, haddress, rfl⟩ := List.mem_map.1 ht
    exact ⟨g, hg, List.ne_nil_of_mem haddress, (htarget _ _).1 hmem⟩
  · rintro ⟨g, hg, htargets, hmem⟩
    obtain ⟨address, haddress⟩ := List.exists_mem_of_ne_nil _ htargets
    exact ⟨target address g.labels, List.mem_flatMap.2 ⟨g, hg, List.mem_map_of_mem haddress⟩,
      (htarget _ _).2 hmem⟩

/-- The labels of a target are those of the object that it becomes. -/
theorem Special.mem_targetExpr_iff {ts : List Target} {l : String × String} :
    (∃ target, .object target ∈ ts.map targetExpr ∧ (l.1, .str l.2) ∈ target) ↔
      ∃ t ∈ ts, l ∈ t := by
  constructor
  · rintro ⟨target, htarget, hl⟩
    obtain ⟨t, ht, heq⟩ := List.mem_map.1 htarget
    rw [← Expr.object.inj heq] at hl
    obtain ⟨l', hl', heq⟩ := List.mem_map.1 hl
    obtain ⟨hname, hvalue⟩ := Prod.mk.inj heq
    obtain rfl : l' = l := Prod.ext hname (Expr.str.inj hvalue)
    exact ⟨t, ht, hl'⟩
  · rintro ⟨t, ht, hl⟩
    exact ⟨_, List.mem_map_of_mem ht, List.mem_map.2 ⟨l, hl, rfl⟩⟩

namespace LogShipper

variable {document writes : List Block} {around : Surroundings} {job : ScrapeJob} {label : String}
  {l : String × String}

/-- Whether a target that the document lists for the job with this label has a label with this
value. -/
def ListsLabel (document : List Block) (label : String) (l : String × String) : Prop :=
  ∃ e ∈ [(Kind.discoveryRelabel, "targets"), (Kind.fileMatch, "path_targets")],
    ∃ b ∈ blocksAt document e.1 label, ∃ targets, b.attribute? e.2 = some (.array targets) ∧
      ∃ target, .object target ∈ targets ∧ (l.1, .str l.2) ∈ target

/-- The targets that are listed for a job that reads files are those of its groups. -/
theorem ScrapeJob.IsRouted.listsLabel_iff (h : job.IsRouted document writes label)
    (hfiles : job.readsFiles = true) :
    ListsLabel document label l ↔ ∃ t ∈ TargetGroup.listed job.targetGroups, l ∈ t := by
  rw [← Special.mem_targetExpr_iff]
  constructor
  · rintro ⟨e, he, b, hb, targets, htargets, hmem⟩
    simp only [List.mem_cons, List.not_mem_nil, or_false] at he
    rcases he with rfl | rfl
    · rw [h.listed b hb] at htargets
      exact Expr.array.inj (Option.some.inj htargets) ▸ hmem
    · rw [h.paths b hb] at htargets
      split at htargets
      · exact Expr.array.inj (Option.some.inj htargets) ▸ hmem
      · exact absurd htargets (by simp [ComponentKind.reference])
  · intro hmem
    by_cases hrules : job.applicableRules = []
    · have hlength := h.search
      rw [Source.isIn, hfiles, if_pos rfl] at hlength
      obtain ⟨b, hb⟩ := List.length_eq_one_iff.1 hlength
      have hpaths := h.paths b (by rw [hb]; exact List.mem_singleton_self b)
      rw [if_pos hrules] at hpaths
      exact ⟨(Kind.fileMatch, "path_targets"), by simp, b, by simp [hb], _, hpaths, hmem⟩
    · have hlength := h.targetRules
      rw [if_pos ⟨hrules, .files, by simp [Source.all], hfiles, rfl⟩] at hlength
      obtain ⟨b, hb⟩ := List.length_eq_one_iff.1 hlength
      have htargets := h.listed b (by rw [hb]; exact List.mem_singleton_self b)
      exact ⟨(Kind.discoveryRelabel, "targets"), by simp, b, by simp [hb], _, htargets, hmem⟩

/-! ## Labels of jobs -/

namespace ScrapeJob

/-- Whether a document has the labels of a job: those of each source in its block, and those of
each group on some target that is listed. -/
structure KeepsLabels (document : List Block) (job : ScrapeJob) (label : String) : Prop where
  sources : ∀ s : Source, ∀ l ∈ s.labels job, ∃ b ∈ blocksAt document s.kind label, b.HasLabel l
  listed : ∀ g ∈ job.targetGroups, ∀ l ∈ g.labels.entries, l.1 ≠ TargetGroup.addressLabel →
    ListsLabel document label l

/-- Whether there is a place for each label of a job: a listener for datagrams has none, and each
label of a group is one of a group that has targets. -/
structure PlacesLabels (job : ScrapeJob) : Prop where
  gelf : Source.gelf.labels job = []
  listed : ∀ g ∈ job.targetGroups, ∀ l ∈ g.labels.entries, l.1 ≠ TargetGroup.addressLabel →
    ∃ g' ∈ job.targetGroups, g'.targets ≠ [] ∧ l ∈ g'.labels.entries

/-- A source with labels has its block in the document. -/
theorem IsPlaced.exists_block (h : job.IsPlaced document writes around label) {s : Source}
    (hs : s ≠ .files) (hin : s.isIn job = true) : ∃ b, b ∈ s.block? around job label ∧
      blocksAt document s.kind label =
        [⟨b.kind.segments, some label,
          parts (renderBy (job.fillIn around label)) b.arguments⟩] := by
  have hsome := @isSome_block? around job label h.mode s hs
  rw [hin] at hsome
  obtain ⟨b, hb⟩ := Option.isSome_iff_exists.1 hsome
  have hplan : (s.kind, s.isIn job) ∈ job.plan := by
    cases s <;> simp [plan, Source.others, Source.kind, Source.isIn]
  have hkind : s.kind ∈ Kind.ofJob := by
    rw [← map_fst_plan job]
    exact List.mem_map_of_mem hplan
  have hmem := mem_sourceDraft (mem_sources hb) (ne_of_isIdentifier h.identifier)
  have hdraft := mem_draft.2 (.inr (.inr (.inl ⟨b, mem_sources hb, hmem⟩)))
  refine ⟨b, hb, h.blocksAt_eq hkind hdraft ?_⟩
  rw [Block.place, Source.kind_block? hb, placeOf]

/-- A job keeps its labels exactly if all of them have a place. -/
theorem IsPlaced.keepsLabels_iff (h : job.IsPlaced document writes around label) :
    job.KeepsLabels document label ↔ job.PlacesLabels := by
  have hlisted : ∀ g ∈ job.targetGroups, ∀ l : String × String, l.1 ≠ TargetGroup.addressLabel →
      (ListsLabel document label l ↔
        ∃ g' ∈ job.targetGroups, g'.targets ≠ [] ∧ l ∈ g'.labels.entries) := fun g hg l hl => by
    have hfiles : job.readsFiles = true := by
      rw [readsFiles, Bool.not_eq_true', List.isEmpty_eq_false_iff]
      exact List.ne_nil_of_mem hg
    rw [h.isRouted.listsLabel_iff hfiles, TargetGroup.exists_mem_listed_iff hl]
  constructor
  · intro hkeeps
    constructor
    case gelf =>
      refine List.eq_nil_iff_forall_not_mem.2 fun l hl => ?_
      obtain ⟨b, hb, hblocks⟩ := h.exists_block (by decide) (Source.isIn_of_mem_labels hl)
      obtain ⟨c, hc, hlabel⟩ := hkeeps.sources .gelf l hl
      rw [hblocks, List.mem_singleton] at hc
      rw [hc] at hlabel
      exact Source.not_hasLabel_gelf hb hlabel
    case listed =>
      exact fun g hg l hmem hl => (hlisted g hg l hl).1 (hkeeps.listed g hg l hmem hl)
  · intro hplaces
    constructor
    case sources =>
      intro s l hl
      have hgelf : s ≠ .gelf := by
        rintro rfl
        exact absurd hl (hplaces.gelf ▸ List.not_mem_nil)
      have hfiles : s ≠ .files := by
        rintro rfl
        exact absurd hl List.not_mem_nil
      obtain ⟨b, hb, hblocks⟩ := h.exists_block hfiles (Source.isIn_of_mem_labels hl)
      rw [hblocks]
      exact ⟨_, List.mem_singleton_self _, Source.hasLabel_block? hgelf hb hl⟩
    case listed =>
      exact fun g hg l hmem hl => (hlisted g hg l hl).2 (hplaces.listed g hg l hmem hl)

/-! ## Labels that are lost -/

/-- The job without the labels that have no place. -/
def withoutLost (job : ScrapeJob) : ScrapeJob := { job with
  gelf := job.gelf.map fun g => { g with labels := .empty }
  targetGroups := job.targetGroups.map fun g =>
    if g.targets = [] then { g with labels := .empty } else g }

theorem listed_withoutLost (job : ScrapeJob) :
    TargetGroup.listed job.withoutLost.targetGroups = TargetGroup.listed job.targetGroups := by
  show (job.targetGroups.map _).flatMap _ = job.targetGroups.flatMap _
  rw [List.flatMap_map]
  refine List.flatMap_congr fun g _ => ?_
  split
  · rename_i htargets
    rw [htargets]
    rfl
  · rfl

theorem draft_withoutLost (around : Surroundings) (job : ScrapeJob) (label : String) :
    job.withoutLost.draft around label = job.draft around label := by
  have hfiles : job.withoutLost.readsFiles = job.readsFiles := by
    rw [readsFiles, readsFiles, withoutLost, List.isEmpty_map]
  have hpushed : job.withoutLost.isPushedTo = job.isPushedTo := by
    rw [isPushedTo, isPushedTo, withoutLost, Option.isSome_map]
  have hrelabels : job.withoutLost.relabelsTargets = job.relabelsTargets := by
    rw [relabelsTargets, relabelsTargets, hfiles, hpushed]
    rfl
  have hrules : job.withoutLost.targetRules label = job.targetRules label := by
    rw [targetRules, targetRules, listed_withoutLost]
    rfl
  have hpaths : job.withoutLost.files around label = job.files around label := by
    rw [files, files, pathSource, pathSource, hrelabels, listed_withoutLost]
    rfl
  have hsources : job.withoutLost.sources around label = job.sources around label := by
    rw [sources, sources, hrelabels]
    show List.filterMap id [_, Option.map _ (Option.map _ _), _, _, _, _, _] = _
    rw [Option.map_map]
    rfl
  rw [draft, draft, hfiles, hrelabels, hrules, hpaths, hsources]
  rfl

theorem convert_withoutLost (around : Surroundings) (job : ScrapeJob) :
    job.withoutLost.convert around = job.convert around := by
  have hdraft : job.withoutLost.draft around = job.draft around :=
    funext (draft_withoutLost around job)
  rw [convert, convert, hdraft]
  rfl

end ScrapeJob

/-- The configuration without the labels that have no place. -/
def Config.withoutLost (config : Config) : Config :=
  { config with jobs := config.jobs.map ScrapeJob.withoutLost }

theorem Config.convertJobs_withoutLost (labelBase : String) (config : Config) :
    config.withoutLost.convertJobs labelBase = config.convertJobs labelBase := by
  have hjobs : ∀ around : Surroundings, (config.jobs.map ScrapeJob.withoutLost).mapM
      (·.convert around) = config.jobs.mapM (·.convert around) := fun around => by
    rw [List.mapM_map]
    exact congrArg (fun f => config.jobs.mapM f) (funext (ScrapeJob.convert_withoutLost around))
  have hfindings : config.withoutLost.findings = config.findings := by
    rw [findings, findings, withoutLost, List.flatMap_map]
    rfl
  rw [convertJobs_eq, convertJobs_eq, hfindings]
  refine congrArg (config.writeLabels labelBase >>= ·) (funext fun labels => ?_)
  show (config.jobs.map ScrapeJob.withoutLost).mapM _ >>= _ = _
  rw [hjobs]
  rfl

end LogShipper

/-- The section without the labels that have no place. -/
def Agent.LogsSection.withoutLost (s : LogsSection) : LogsSection := { s with
  instances := s.instances.map fun i =>
    { i with jobs := i.jobs.map LogShipper.ScrapeJob.withoutLost } }

theorem Agent.LogsSection.convert_withoutLost (s : LogsSection) :
    s.withoutLost.convert = s.convert := by
  have hinstances : s.withoutLost.instances.mapM (·.convert s.withoutLost) =
      s.instances.mapM (·.convert s) := by
    rw [withoutLost, List.mapM_map]
    refine congrArg (fun f => s.instances.mapM f) (funext fun i => ?_)
    exact LogShipper.Config.convertJobs_withoutLost (labelOfParts ["logs", i.name]) (i.standalone s)
  rw [convert, convert, hinstances]

namespace SourceConfig

open LogShipper

/-- The configuration without the labels of log sources that have no place. -/
def withoutLost : SourceConfig → SourceConfig
  | agent config => agent { config with logs := config.logs.map Agent.LogsSection.withoutLost }
  | logShipper config => logShipper config.withoutLost
  | collector config => collector config

/-- Nothing depends on labels that have no place. -/
theorem standalone_withoutLost (registry : Collector.Registry) (config : SourceConfig) :
    config.withoutLost.standalone registry = config.standalone registry := by
  cases config with
  | collector config => rfl
  | logShipper config =>
    show (config.withoutLost.convert .empty).1 = (config.convert .empty).1
    rw [Config.convert, Config.convert, Config.convertJobs_withoutLost]
    rfl
  | agent config =>
    obtain ⟨server, metrics, integrations, logs, traces, management⟩ := config
    cases logs with
    | none => rfl
    | some s =>
      let rest : Agent.Config := ⟨server, metrics, integrations, none, traces, management⟩
      show (Agent.Config.convert { rest with logs := some s.withoutLost } .empty).1 =
        (Agent.Config.convert { rest with logs := some s } .empty).1
      rw [Agent.Config.convert_logs rest, Agent.Config.convert_logs rest,
        Agent.LogsSection.convert_withoutLost]

/-- In the document of a configuration, whether it is one of a log shipper or one of an agent that
embeds log shippers, a job has all labels that it configures exactly if all of them have a place:
the labels of a listener for datagrams have none, nor have those of a group without targets. Nothing
is said about the others, as the conversion does not depend on them. -/
theorem labels_kept (registry : Collector.Registry) (config : SourceConfig) :
    let document := Body.blocks (config.standalone registry).document
    (∃ shipments : List Shipment, shipments.map Shipment.config = config.logShippers ∧
      (shipments.flatMap fun s => s.jobs.map Prod.snd).Nodup ∧
      ∀ s ∈ shipments, s.jobs.map Prod.fst = s.config.jobs.filter (·.modeFault?.isNone) ∧
        ∀ e ∈ s.jobs, e.1.KeepsLabels document e.2 ↔ e.1.PlacesLabels) ∧
    config.withoutLost.convert registry = config.convert registry := by
  obtain ⟨shipments, hconfigs, h⟩ := config.consists_standalone registry
  rw [Draft.blocks_document]
  refine ⟨⟨shipments, hconfigs, h.nodup_jobLabels, fun s hs => ?_⟩, ?_⟩
  · exact ⟨(h.labelled s hs).jobs, fun e he => (h.isPlaced hs he).keepsLabels_iff⟩
  · rw [convert, convert, standalone_withoutLost]

/-- A job that listens for datagrams and labels them. -/
def graylog : SourceConfig := .logShipper {
  clients := [{ url := "http://loki:3100/loki/api/v1/push" }]
  jobs := [{
    name := "graylog"
    gelf := some { listenAddress := some "0.0.0.0:12201", labels := .ofList [("env", "prod")] } }] }

/-- The label is in no block, and nothing is said about it. -/
theorem labels_lost_datagrams :
    (graylog.convert .builtin).findings = [] ∧
    ∀ b ∈ Body.blocks (graylog.standalone .builtin).document, ¬ b.HasLabel ("env", "prod") := by
  have hlacks : ∀ b ∈ Body.blocks (graylog.standalone .builtin).document,
      ∀ c ∈ b :: b.blocks, c.attribute? "labels" = none := by decide +kernel
  have hfindings : (graylog.standalone .builtin).findings = [] := by decide +kernel
  refine ⟨by rw [convert_eq, hfindings], ?_⟩
  rintro b hb ⟨c, hc, labels, hlabels, -⟩
  rw [hlacks b hb c hc] at hlabels
  exact absurd hlabels (by simp)

end SourceConfig

end AgentConvert
