import AgentConvert.Proofs.Embedding.Renaming
import AgentConvert.Proofs.Routing.Shipment
import Mathlib.Logic.Equiv.Basic

/-!
# Renamed jobs

Under a new label, and with new labels for the clients, a job becomes the same blocks renamed
(`ScrapeJob.rename_draft`), and so does a whole shipment (`Shipment.rename_blocks`). Two shipments
of one configuration have as many labels each, and no label twice, so there is a renaming from one
to the other (`Shipment.exists_renaming`).
-/

namespace AgentConvert

open Argument

namespace LogShipper

/-- Whether surroundings differ in the labels of the clients only, as a renaming says. -/
structure Surroundings.Renamed (ρ : Renaming) (a b : Surroundings) : Prop where
  writers : List.Forall₂ ρ.Sends a.writers b.writers
  syncPeriod : a.syncPeriod = b.syncPeriod
  positionsFile : a.positionsFile = b.positionsFile

theorem Kind.isNamed_ofJob : ∀ kind ∈ Kind.ofJob, kind.IsNamed := by decide

theorem Kind.ne_write_of_ofJob : ∀ kind ∈ Kind.ofJob, kind.segments ≠ Kind.write.segments := by
  decide

theorem Source.kind_mem_ofJob (s : Source) : s.kind ∈ Kind.ofJob := by
  cases s <;> simp [kind, Kind.ofJob, Kind.sources]

theorem Kind.label_ofJob (ρ : Renaming) {kind : ComponentKind} (h : kind ∈ Kind.ofJob)
    (label : String) : ρ.label kind.segments label = ρ.job label :=
  ρ.label_of_ne (Kind.ne_write_of_ofJob kind h) label

namespace ScrapeJob

variable {ρ : Renaming} {around around' : Surroundings} {job : ScrapeJob} {label : String}
  {f g : Special → Expr}

/-! ## References -/

section

variable (hl : isIdentifier label = true) (hl' : isIdentifier (ρ.job label) = true)

include hl hl'

/-- What a block of a job exports is exported under the new label. -/
theorem sends_job (kind : ComponentKind) (field : String) (hkind : kind ∈ Kind.ofJob)
    (hf : isIdentifier field = true) :
    ρ.Sends (kind.exportPath label field) (kind.exportPath (ρ.job label) field) := by
  have hlabel := Kind.label_ofJob ρ hkind label
  have hsends := ρ.sends_exportPath kind label field (Kind.isNamed_ofJob kind hkind) hl
    (by rwa [hlabel]) hf
  rwa [hlabel] at hsends

theorem sends_receivers (job : ScrapeJob) (h : around.Renamed ρ around') : List.Forall₂ ρ.Sends
    (job.receivers around label) (job.receivers around' (ρ.job label)) := by
  unfold receivers
  split
  · exact h.writers
  · exact .cons (sends_job hl hl' _ _ (by simp [Kind.ofJob]) (by decide)) .nil

theorem sends_pulledReceivers (job : ScrapeJob) (h : around.Renamed ρ around') :
    List.Forall₂ ρ.Sends (job.pulledReceivers around label)
      (job.pulledReceivers around' (ρ.job label)) := by
  unfold pulledReceivers
  split
  · exact .cons (sends_job hl hl' _ _ (by simp [Kind.ofJob]) (by decide)) .nil
  · exact sends_receivers hl hl' job h

/-- What the job fills in is renamed. -/
theorem carries_fillIn (job : ScrapeJob) (h : around.Renamed ρ around') :
    ρ.Carries (renderBy (job.fillIn around label))
      (renderBy (job.fillIn around' (ρ.job label))) := by
  refine Renaming.carries_renderBy fillsPlaceholders_fillIn fillsPlaceholders_fillIn fun hole => ?_
  cases hole with
  | relabelRules =>
    have hrules := sends_job hl hl' Kind.discoveryRelabel "rules"
      (by simp [Kind.ofJob]) (by decide)
    exact hrules.expr
  | logsReceivers => exact Renaming.Sends.exprs (sends_pulledReceivers hl hl' job h)
  | metricsReceivers => rfl

end

end ScrapeJob

/-! ## Sources -/

section

variable {ρ : Renaming} {f g : Special → Expr} {o o' : Outlet}

/-- Whether outlets differ in the labels of their receivers only. -/
structure Outlet.Renamed (ρ : Renaming) (o o' : Outlet) : Prop where
  receivers : List.Forall₂ ρ.Sends o.receivers o'.receivers
  rules : o.rules = o'.rules

theorem Outlet.Renamed.forwardTo (h : o.Renamed ρ o') (hfg : ρ.Carries f g) :
    AreRenamed ρ f g o.forwardTo o'.forwardTo :=
  areRenamed_references _ hfg h.receivers

theorem Outlet.Renamed.relabelRules (h : o.Renamed ρ o') (hfg : ρ.Carries f g) :
    AreRenamed ρ f g o.relabelRules o'.relabelRules := by
  rw [Outlet.relabelRules, Outlet.relabelRules, ← h.rules]
  exact areRenamed_same hfg o.rules.toList (by simp)

/-- Whether blocks of sources have one kind, and the fields of one are renamed those of the
other. -/
def SourceBlock.IsRenamed (ρ : Renaming) (f g : Special → Expr) (b b' : SourceBlock) : Prop :=
  b.kind = b'.kind ∧ AreRenamed ρ f g b.arguments b'.arguments

section

variable (hfg : ρ.Carries f g) (h : o.Renamed ρ o')

include hfg h

/-- A source that is pushed to names its job in its outlet only. -/
theorem Outlet.Renamed.isRenamed {kind : ComponentKind} {fields : Fields}
    (hfields : AreParts (Special.Uses [] []) fields) (ds ds' : Diagnostics) :
    SourceBlock.IsRenamed ρ f g ⟨kind, fields ++ o.forwardTo ++ o.relabelRules, ds⟩
      ⟨kind, fields ++ o'.forwardTo ++ o'.relabelRules, ds'⟩ :=
  ⟨rfl, ((areRenamed_same hfg [] hfields).append (h.forwardTo hfg)).append (h.relabelRules hfg)⟩

theorem Subscription.isRenamed_block (s : Subscription) (mode : SubscriptionMode)
    (context : String) :
    (s.block mode context o).IsRenamed ρ f g (s.block mode context o') :=
  h.isRenamed hfg (s.areParts_modeFields mode) _ _

theorem GelfListener.isRenamed_block (l : GelfListener) :
    (l.block o).IsRenamed ρ f g (l.block o') :=
  ⟨rfl, ((areRenamed_same hfg [] (by simp)).append (h.relabelRules hfg)).append
    (h.forwardTo hfg)⟩

theorem PushReceiver.isRenamed_block (r : PushReceiver) (kind : ComponentKind) (context : String) :
    (r.block kind context o).IsRenamed ρ f g (r.block kind context o') :=
  h.isRenamed hfg (by simp) _ _

theorem SyslogListener.isRenamed_block (l : SyslogListener) :
    (l.block o).IsRenamed ρ f g (l.block o') :=
  h.isRenamed hfg (by simp) _ _

end

/-- A source that pulls does not name its job. -/
theorem SourceBlock.isRenamed_pulled (hfg : ρ.Carries f g) {b : SourceBlock}
    (hparts : AreParts (Special.Uses [] [.logsReceivers]) b.arguments) : b.IsRenamed ρ f g b :=
  ⟨rfl, areRenamed_same hfg _ hparts⟩

theorem rel_map {α β γ : Type} {r : β → γ → Prop} {u : α → β} {v : α → γ} (h : ∀ a, r (u a) (v a)) :
    ∀ o : Option α, Option.Rel r (o.map u) (o.map v)
  | none => .none
  | some a => .some (h a)

theorem Source.isRenamed_block? (s : Source) {around around' : Surroundings} {job : ScrapeJob}
    {label label' : String} (hfg : ρ.Carries f g)
    (h : (job.outlet around label).Renamed ρ (job.outlet around' label')) :
    Option.Rel (SourceBlock.IsRenamed ρ f g) (s.block? around job label)
      (s.block? around' job label') := by
  cases s with
  | files => exact .none
  | subscription =>
    rw [block?, block?]
    cases job.subscription with
    | none => exact .none
    | some s => exact rel_map (fun mode => s.isRenamed_block hfg h mode job.context) s.mode?
  | gelf => exact rel_map (fun g => g.isRenamed_block hfg h) job.gelf
  | heroku => exact rel_map (fun r => r.isRenamed_block hfg h _ _) job.herokuDrain
  | api => exact rel_map (fun r => r.isRenamed_block hfg h _ _) job.pushApi
  | syslog => exact rel_map (fun l => l.isRenamed_block hfg h) job.syslog
  | cloudflare =>
    exact rel_map (fun c => SourceBlock.isRenamed_pulled hfg (by simp [CloudflareSource.block]))
      job.cloudflare
  | eventLog =>
    exact rel_map (fun e => SourceBlock.isRenamed_pulled hfg (by simp [EventLogSource.block]))
      job.eventLog

end

/-! ## Jobs -/

namespace ScrapeJob

variable {ρ : Renaming} {around around' : Surroundings} {job : ScrapeJob} {label : String}

section

variable (hl : isIdentifier label = true) (hl' : isIdentifier (ρ.job label) = true)

include hl hl'

theorem rename_targetRules : (job.targetRules label).blocks.map (Block.rename ρ) =
    (job.targetRules (ρ.job label)).blocks :=
  Draft.rename_block (areParts_targetRules [] job) (areParts_targetRules [] job)
    (areRenamed_same ρ.carries_render [] (areParts_targetRules [] job)) (ne_of_isIdentifier hl)
    (ne_of_isIdentifier hl') (Kind.label_ofJob ρ (by simp [Kind.ofJob]) label)

theorem areRenamed_pathSource : AreRenamed ρ Special.render Special.render
    (Field.always "path_targets" (job.pathSource label).argument)
    (Field.always "path_targets" (job.pathSource (ρ.job label)).argument) := by
  unfold pathSource
  split
  · exact areRenamed_reference _ ρ.carries_render
      (sends_job hl hl' _ _ (by simp [Kind.ofJob]) (by decide))
  · exact areRenamed_same ρ.carries_render [] (by simp [TargetSource.argument])

variable (h : around.Renamed ρ around')

include h

theorem rename_files (hfiles : job.readsFiles = true) :
    (job.files around label).blocks.map (Block.rename ρ) =
      (job.files around' (ρ.job label)).blocks := by
  have hne := ne_of_isIdentifier hl
  have hne' := ne_of_isIdentifier hl'
  have hmatch : AreRenamed ρ Special.render Special.render
      (Field.always "path_targets" (job.pathSource label).argument ++
        Field.optional "sync_period" .duration around.syncPeriod)
      (Field.always "path_targets" (job.pathSource (ρ.job label)).argument ++
        Field.optional "sync_period" .duration around'.syncPeriod) := by
    rw [← h.syncPeriod]
    exact (areRenamed_pathSource hl hl').append
      (areRenamed_same ρ.carries_render [] (by simp))
  have hread : AreRenamed ρ Special.render Special.render
      (Field.always "targets" (.reference (Kind.fileMatch.exportPath label "targets")) ++
        Field.always "forward_to" (.references (job.receivers around label)) ++
        Field.optional "legacy_positions_file" .text around.positionsFile)
      (Field.always "targets" (.reference (Kind.fileMatch.exportPath (ρ.job label) "targets")) ++
        Field.always "forward_to" (.references (job.receivers around' (ρ.job label))) ++
        Field.optional "legacy_positions_file" .text around'.positionsFile) := by
    have htargets := areRenamed_reference "targets" ρ.carries_render
      (sends_job hl hl' Kind.fileMatch "targets" (by simp [Kind.ofJob])
        (by decide))
    have hforward := areRenamed_references "forward_to" ρ.carries_render
      (sends_receivers hl hl' job h)
    rw [← h.positionsFile]
    exact (htargets.append hforward).append
      (areRenamed_same ρ.carries_render [] (by simp))
  rw [files, files, Draft.blocks_append, Draft.blocks_append, List.map_append,
    Draft.rename_block (areParts_fileMatch hfiles) (areParts_fileMatch hfiles) hmatch hne hne'
      (Kind.label_ofJob ρ (by simp [Kind.ofJob]) label),
    Draft.rename_block (areParts_sourceFile hfiles) (areParts_sourceFile hfiles) hread hne hne'
      (Kind.label_ofJob ρ (by simp [Kind.ofJob]) label)]

theorem rename_source (s : Source) :
    ((s.block? around job label).toList.flatMap fun b =>
      (job.sourceDraft around label b).blocks).map (Block.rename ρ) =
    (s.block? around' job (ρ.job label)).toList.flatMap fun b =>
      (job.sourceDraft around' (ρ.job label) b).blocks := by
  have houtlet : (job.outlet around label).Renamed ρ (job.outlet around' (ρ.job label)) :=
    ⟨sends_receivers hl hl' job h, rfl⟩
  have hrel := s.isRenamed_block? (carries_fillIn hl hl' job h) houtlet
  generalize hb : s.block? around job label = b? at hrel ⊢
  generalize hb' : s.block? around' job (ρ.job label) = b'? at hrel ⊢
  cases hrel with
  | none => rfl
  | @some b b' hrenamed =>
    have hlabel : ρ.label b.kind.segments label = ρ.job label := by
      rw [Source.kind_block? hb]
      exact Kind.label_ofJob ρ s.kind_mem_ofJob label
    rw [Option.toList_some, Option.toList_some, List.flatMap_singleton, List.flatMap_singleton,
      blocks_sourceDraft (mem_sources hb) (ne_of_isIdentifier hl),
      blocks_sourceDraft (mem_sources hb') (ne_of_isIdentifier hl'), ← hrenamed.1, ← hrenamed.2,
      List.map_singleton, Block.rename, Option.map_some, hlabel]

theorem rename_sources :
    (Draft.concat ((job.sources around label).map
      (job.sourceDraft around label))).blocks.map (Block.rename ρ) =
    (Draft.concat ((job.sources around' (ρ.job label)).map
      (job.sourceDraft around' (ρ.job label)))).blocks := by
  rw [Draft.blocks_concat, Draft.blocks_concat, List.flatMap_map, List.flatMap_map,
    Source.sources_eq, Source.sources_eq, List.filterMap_eq_flatMap_toList,
    List.filterMap_eq_flatMap_toList, List.flatMap_assoc, List.flatMap_assoc, List.map_flatMap]
  exact List.flatMap_congr fun s _ => rename_source hl hl' h s

theorem rename_pulledRules : (job.pulledRules around label).blocks.map (Block.rename ρ) =
    (job.pulledRules around' (ρ.job label)).blocks := by
  have hforward := areRenamed_references "forward_to" ρ.carries_render
    (sends_receivers hl hl' job h)
  exact Draft.rename_block areParts_pulledRules areParts_pulledRules
    (hforward.append (areRenamed_same ρ.carries_render [] (by simp)))
    (ne_of_isIdentifier hl) (ne_of_isIdentifier hl')
    (Kind.label_ofJob ρ (by simp [Kind.ofJob]) label)

theorem rename_processing : (job.processing around label).blocks.map (Block.rename ρ) =
    (job.processing around' (ρ.job label)).blocks := by
  have hforward := areRenamed_references "forward_to" ρ.carries_render h.writers
  exact Draft.rename_block areParts_processing areParts_processing
    (hforward.append (areRenamed_same ρ.carries_render [] (by simp)))
    (ne_of_isIdentifier hl) (ne_of_isIdentifier hl')
    (Kind.label_ofJob ρ (by simp [Kind.ofJob]) label)

/-- Under the new labels a job becomes the same blocks, renamed. -/
theorem rename_draft : (job.draft around label).blocks.map (Block.rename ρ) =
    (job.draft around' (ρ.job label)).blocks := by
  have hwhen : ∀ (condition : Bool) (d d' : Draft),
      (condition = true → d.blocks.map (Block.rename ρ) = d'.blocks) →
      (Draft.when condition d).blocks.map (Block.rename ρ) = (Draft.when condition d').blocks := by
    intro condition d d' hd
    cases condition with
    | false => rfl
    | true => exact hd rfl
  simp only [draft, Draft.blocks_append, Draft.blocks_report, List.nil_append, List.map_append,
    rename_sources hl hl' h, hwhen _ _ _ fun _ => rename_targetRules hl hl',
    hwhen _ _ _ (rename_files hl hl' h), hwhen _ _ _ fun _ => rename_pulledRules hl hl' h,
    hwhen _ _ _ fun _ => rename_processing hl hl' h]

end

end ScrapeJob

/-! ## Shipments -/

/-- Values without repetitions are permuted to any others, if these are as many. -/
theorem exists_perm_map {α : Type} [DecidableEq α] {as bs : List α} (ha : as.Nodup) (hb : bs.Nodup)
    (hlength : as.length = bs.length) : ∃ σ : Equiv.Perm α, as.map σ = bs := by
  induction as generalizing bs with
  | nil => exact ⟨.refl α, (List.length_eq_zero_iff.1 hlength.symm).symm⟩
  | cons a as ih =>
    cases bs with
    | nil => exact absurd hlength (by simp)
    | cons b bs =>
      rw [List.nodup_cons] at ha hb
      obtain ⟨σ, rfl⟩ := ih ha.2 hb.2 (Nat.succ.inj hlength)
      -- `a` goes to `b`; no other of the values had gone there
      refine ⟨σ.trans (Equiv.swap (σ a) b), ?_⟩
      rw [List.map_cons, Equiv.trans_apply, Equiv.swap_apply_left]
      refine congrArg (b :: ·) (List.map_congr_left fun c hc => ?_)
      rw [Equiv.trans_apply, Equiv.swap_apply_of_ne_of_ne]
      · exact fun heq => ha.1 (σ.injective heq ▸ hc)
      · exact fun heq => hb.1 (heq ▸ List.mem_map_of_mem hc)

namespace Shipment

variable {ρ : Renaming} {s t : Shipment}

theorem rename_write (client : Client) (label : String) :
    (write client label).rename ρ = write client (ρ.write label) := by
  have hfields : AreRenamed ρ Special.render Special.render client.arguments client.arguments :=
    areRenamed_same ρ.carries_render [] (Config.areParts_write [] client)
  show Block.mk Kind.write.segments (some (ρ.label Kind.write.segments label))
    (Body.rename ρ (Argument.parts Special.render client.arguments)) = write client (ρ.write label)
  rw [ρ.label_write, hfields, write]

/-- A shipment under the new labels has the same blocks, renamed. -/
theorem rename_blocks (hs : s.IsLabelled) (ht : t.IsLabelled) (hconfig : s.config = t.config)
    (hwrites : s.writeLabels.map ρ.write = t.writeLabels)
    (hjobs : (s.jobs.map fun e => (e.1, ρ.job e.2)) = t.jobs) :
    s.blocks.map (Block.rename ρ) = t.blocks := by
  have haround : s.around.Renamed ρ t.around := by
    refine ⟨?_, by rw [around, around, hconfig], by rw [around, around, hconfig]⟩
    rw [around, around, ← hwrites, List.map_map, List.forall₂_map_left_iff,
      List.forall₂_map_right_iff, List.forall₂_same]
    intro label hlabel
    have hnew : isIdentifier (ρ.write label) = true :=
      ht.identifiers.1 _ (hwrites ▸ List.mem_map_of_mem hlabel)
    have hsends := ρ.sends_exportPath Kind.write label "receiver" (by decide)
      (hs.identifiers.1 label hlabel) (by rwa [ρ.label_write]) (by decide)
    rwa [ρ.label_write] at hsends
  rw [blocks_eq, blocks_eq, List.map_append, ← hjobs, List.flatMap_map, List.map_flatMap]
  congr 1
  · refine List.flatMap_congr fun e he => ?_
    have hnew : isIdentifier (ρ.job e.2) = true :=
      ht.identifiers.2 (e.1, ρ.job e.2) (hjobs ▸ List.mem_map.2 ⟨e, he, rfl⟩)
    exact ScrapeJob.rename_draft (hs.identifiers.2 e he) hnew haround
  · rw [writes, writes, ← hconfig, ← hwrites, List.zip_map_right, List.map_map, List.map_map]
    exact List.map_congr_left fun e _ => rename_write e.1 e.2

theorem nodup_jobLabels (h : s.labels.Nodup) : (s.jobs.map Prod.snd).Nodup := by
  rw [labels_eq, ← List.map_eq_flatMap] at h
  have hmap : s.jobs.map (fun e => ("", e.2)) = (s.jobs.map Prod.snd).map fun l => ("", l) := by
    rw [List.map_map]
    rfl
  rw [hmap] at h
  exact (List.nodup_append.1 h).1.of_map

theorem nodup_writeLabels (hlabelled : s.IsLabelled) (h : s.labels.Nodup) :
    s.writeLabels.Nodup := by
  have hmap : (s.config.clients.zip s.writeLabels).map (fun e => (Kind.write.name, e.2)) =
      s.writeLabels.map fun l => (Kind.write.name, l) := by
    rw [← List.map_snd_zip (Nat.le_of_eq hlabelled.clients), List.map_map,
      List.map_snd_zip (Nat.le_of_eq hlabelled.clients)]
    rfl
  rw [labels_eq, hmap] at h
  exact (List.nodup_append.1 h).2.1.of_map

/-- Two shipments of one configuration are the same up to a renaming. -/
theorem exists_renaming (hs : s.IsLabelled) (ht : t.IsLabelled) (hconfig : s.config = t.config)
    (hsnodup : s.labels.Nodup) (htnodup : t.labels.Nodup) :
    ∃ ρ : Renaming, s.blocks.map (Block.rename ρ) = t.blocks := by
  have hfst : s.jobs.map Prod.fst = t.jobs.map Prod.fst := by
    rw [hs.jobs, ht.jobs, hconfig]
  obtain ⟨σ, hσ⟩ := exists_perm_map (nodup_jobLabels hsnodup) (nodup_jobLabels htnodup)
    (by simpa using congrArg List.length hfst)
  obtain ⟨τ, hτ⟩ := exists_perm_map (nodup_writeLabels hs hsnodup) (nodup_writeLabels ht htnodup)
    (by rw [hs.clients, ht.clients, hconfig])
  refine ⟨⟨σ, τ, σ.injective, τ.injective⟩, rename_blocks hs ht hconfig hτ ?_⟩
  have hjobs : t.jobs = (t.jobs.map Prod.fst).zip (t.jobs.map Prod.snd) := List.zip_of_prod rfl rfl
  rw [hjobs, ← hfst, ← hσ, List.map_map]
  exact (List.zip_of_prod (by rw [List.map_map]; rfl) (by rw [List.map_map]; rfl))

end Shipment

end LogShipper

end AgentConvert
