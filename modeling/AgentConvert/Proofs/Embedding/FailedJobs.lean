import AgentConvert.Proofs.Embedding.Logs

/-!
# Jobs that fail

The jobs of a log shipper stand in a configuration of its own or in one of those that an agent
embeds (`JobHost`). A job whose subscription names no mode takes no label and becomes no block, so
all blocks and labels of a configuration are a matter of the jobs that do not fail
(`JobHost.relates_draft`); in the findings each job has its places (`JobHost.exists_findings`).
Together: without the job the document is the same, and so is everything that is said but what the
job itself causes (`JobHost.convert_failed_job`).
-/

namespace AgentConvert

open LogShipper

/-- Whether two drafts have the same blocks. -/
def Draft.SameBlocks (d e : Draft) : Prop := d.blocks = e.blocks

theorem Draft.SameBlocks.append {d d' e e' : Draft} (h : d.SameBlocks d') (h' : e.SameBlocks e') :
    (d ++ e).SameBlocks (d' ++ e') := by
  rw [SameBlocks, blocks_append, blocks_append, h, h']

theorem Draft.SameBlocks.concat {ds es : List Draft} (h : List.Forall₂ SameBlocks ds es) :
    (Draft.concat ds).SameBlocks (Draft.concat es) :=
  flatMap_eq_of_forall₂ h

namespace LogShipper

/-! ## Jobs -/

/-- The jobs that do not fail. -/
def ScrapeJob.converted (jobs : List ScrapeJob) : List ScrapeJob :=
  jobs.filter (·.modeFault?.isNone)

/-- A job that fails takes no label and becomes no block. -/
theorem ScrapeJob.convert_of_modeFault (around : Surroundings) {job : ScrapeJob}
    {fault : Diagnostic} (h : job.modeFault? = some fault) :
    job.convert around = pure (.report [fault]) := by
  rw [convert, h]

/-- The blocks of jobs are those of the jobs that do not fail, under the same labels. -/
theorem ScrapeJob.relates_converted (around : Surroundings) (jobs : List ScrapeJob) :
    Labelling.Relates (fun ds es => (Draft.concat ds).SameBlocks (Draft.concat es))
      (jobs.mapM (·.convert around)) ((converted jobs).mapM (·.convert around)) := by
  induction jobs with
  | nil => exact fun ls => ⟨rfl, rfl⟩
  | cons job jobs ih =>
    intro ls
    rw [Labelling.mapM_cons]
    cases hfault : job.modeFault? with
    | some fault =>
      rw [converted, List.filter_cons_of_neg (by simp [hfault]), convert_of_modeFault around hfault]
      exact ih ls
    | none =>
      rw [converted, List.filter_cons_of_pos (by simp [hfault]), Labelling.mapM_cons]
      obtain ⟨hblocks, hlabels⟩ := ih (job.convert around ls).2
      exact ⟨congrArg ((job.convert around ls).1.blocks ++ ·) hblocks, hlabels⟩

/-! ## Configurations -/

namespace Config

variable {jobs jobs' : List ScrapeJob}

theorem relates_convertJobs (labelBase : String) (config : Config)
    (h : ScrapeJob.converted jobs = ScrapeJob.converted jobs') :
    Labelling.Relates Draft.SameBlocks ({ config with jobs }.convertJobs labelBase)
      ({ config with jobs := jobs' }.convertJobs labelBase) := by
  rw [convertJobs_eq, convertJobs_eq]
  refine Labelling.relates_bind (Labelling.relates_refl _) fun labels _ hlabels => ?_
  subst hlabels
  have hjobs : Labelling.Relates (fun ds es => (Draft.concat ds).SameBlocks (Draft.concat es))
      (jobs.mapM (·.convert (config.around labelBase labels)))
      (jobs'.mapM (·.convert (config.around labelBase labels))) := fun ls => by
    obtain ⟨hblocks, hlabels⟩ :=
      ScrapeJob.relates_converted (config.around labelBase labels) jobs ls
    obtain ⟨hblocks', hlabels'⟩ :=
      ScrapeJob.relates_converted (config.around labelBase labels) jobs' ls
    rw [h] at hblocks hlabels
    exact ⟨hblocks.trans hblocks'.symm, hlabels.trans hlabels'.symm⟩
  refine Labelling.relates_bind hjobs fun ds es hblocks => Labelling.relates_pure ?_
  exact .append (.append rfl hblocks) rfl

theorem relates_convert (config : Config)
    (h : ScrapeJob.converted jobs = ScrapeJob.converted jobs') :
    Labelling.Relates Draft.SameBlocks { config with jobs }.convert
      { config with jobs := jobs' }.convert := by
  refine Labelling.relates_bind (relates_convertJobs "" config h) fun d e hblocks => ?_
  exact Labelling.relates_pure (.append (.append rfl rfl) hblocks)

end Config

end LogShipper

/-! ## Hosts of jobs -/

/-- A place for the jobs of a log shipper. -/
inductive JobHost where
  /-- A configuration of a log shipper. -/
  | alone (config : Config)
  /-- A log shipper that an agent embeds, between others. -/
  | embedded (config : Agent.Config) (logs : Agent.LogsSection) (ahead : List Agent.LogsInstance)
    (i : Agent.LogsInstance) (behind : List Agent.LogsInstance)

namespace JobHost

/-- The logs of an agent with these jobs in one of its log shippers. -/
def logs (s : Agent.LogsSection) (ahead : List Agent.LogsInstance) (i : Agent.LogsInstance)
    (behind : List Agent.LogsInstance) (jobs : List ScrapeJob) : Agent.LogsSection :=
  { s with instances := ahead ++ { i with jobs } :: behind }

/-- The configuration with these jobs in the place. -/
def config (jobs : List ScrapeJob) : JobHost → SourceConfig
  | alone config => .logShipper { config with jobs }
  | embedded config s ahead i behind =>
    .agent { config with logs := some (logs s ahead i behind jobs) }

variable {registry : Collector.Registry} {jobs jobs' : List ScrapeJob}

theorem relates_logs (s : Agent.LogsSection) (ahead : List Agent.LogsInstance)
    (i : Agent.LogsInstance) (behind : List Agent.LogsInstance)
    (h : ScrapeJob.converted jobs = ScrapeJob.converted jobs') :
    Labelling.Relates Draft.SameBlocks (logs s ahead i behind jobs).convert
      (logs s ahead i behind jobs').convert := by
  have hothers : ∀ is : List Agent.LogsInstance, List.Forall₂ (fun j k =>
      Labelling.Relates Draft.SameBlocks (j.convert (logs s ahead i behind jobs))
        (k.convert (logs s ahead i behind jobs'))) is is := fun is =>
    List.forall₂_same.2 fun j _ ls => ⟨rfl, rfl⟩
  refine Labelling.relates_bind (Labelling.relates_mapM ?_) fun ds es hblocks =>
    Labelling.relates_pure (.concat hblocks)
  refine List.rel_append (hothers ahead) (.cons ?_ (hothers behind))
  exact Config.relates_convertJobs (labelOfParts ["logs", i.name]) (i.standalone s) h

/-- All blocks and labels of a configuration are a matter of the jobs that do not fail. -/
theorem relates_draft (registry : Collector.Registry) (host : JobHost)
    (h : ScrapeJob.converted jobs = ScrapeJob.converted jobs') :
    Labelling.Relates Draft.SameBlocks ((host.config jobs).draft registry)
      ((host.config jobs').draft registry) := by
  cases host with
  | alone config => exact Config.relates_convert config h
  | embedded config s ahead i behind =>
    show Labelling.Relates _ (Agent.Config.convert _) (Agent.Config.convert _)
    rw [Agent.Config.convert_logs config, Agent.Config.convert_logs config]
    refine Labelling.relates_bind (Labelling.relates_refl _) fun rest _ hrest => ?_
    subst hrest
    refine Labelling.relates_bind (relates_logs s ahead i behind h) fun d e hblocks => ?_
    exact Labelling.relates_pure (.append rfl hblocks)

/-- Behind what is said ahead of them and before what is said behind them, the jobs have their
findings in two rows: what of each is not supported, and what converting each has to say. -/
theorem exists_findings (registry : Collector.Registry) (host : JobHost) :
    ∃ opening closing : Diagnostics, ∀ jobs, ((host.config jobs).convert registry).findings =
      opening ++ jobs.flatMap ScrapeJob.unsupported ++ jobs.flatMap ScrapeJob.findings ++
        closing := by
  cases host with
  | alone config =>
    refine ⟨config.server.agentFindings ++ Config.findings { config with jobs := [] }, [],
      fun jobs => ?_⟩
    have hconfig : Config.findings { config with jobs } =
        Config.findings { config with jobs := [] } ++ jobs.flatMap ScrapeJob.unsupported :=
      Config.findings_eq { config with jobs }
    show ((SourceConfig.logShipper { config with jobs }).convert registry).findings = _
    rw [SourceConfig.findings_logShipper, hconfig]
    simp only [List.append_assoc, List.append_nil]
  | embedded config s ahead i behind =>
    refine ⟨((SourceConfig.agent { config with logs := none }).convert registry).findings ++
      ahead.flatMap (·.findings s) ++ Config.findings { i.standalone s with jobs := [] },
      behind.flatMap (·.findings s), fun jobs => ?_⟩
    have hi : { i with jobs }.findings s = Config.findings { i.standalone s with jobs := [] } ++
        jobs.flatMap ScrapeJob.unsupported ++ jobs.flatMap ScrapeJob.findings :=
      congrArg (· ++ _) (Config.findings_eq { i.standalone s with jobs })
    show ((SourceConfig.agent { config with logs := some (logs s ahead i behind jobs) }).convert
      registry).findings = _
    rw [SourceConfig.findings_logs registry config]
    show _ ++ (ahead ++ { i with jobs } :: behind).flatMap (·.findings s) = _
    rw [List.flatMap_append, List.flatMap_cons, hi]
    simp only [List.append_assoc]

/-- A job whose subscription names no mode leaves no trace in the document, nor in the labels that
are handed out. In the findings it has one error in its place among the jobs, besides what is said
about its settings that are not supported. -/
theorem convert_failed_job (registry : Collector.Registry) (host : JobHost)
    (before after : List ScrapeJob) (job : ScrapeJob) {s : Subscription}
    (hs : job.subscription = some s)
    (htype : s.subscriptionType ∉ ["", "pull", "push"]) :
    let full := host.config (before ++ job :: after)
    let reduced := host.config (before ++ after)
    (full.convert registry).document = (reduced.convert registry).document ∧
    (full.draft registry .empty).2 = (reduced.draft registry .empty).2 ∧
    ∃ opening closing : Diagnostics,
      (reduced.convert registry).findings = opening ++
        (before ++ after).flatMap ScrapeJob.unsupported ++
        before.flatMap ScrapeJob.findings ++ after.flatMap ScrapeJob.findings ++ closing ∧
      (full.convert registry).findings = opening ++
        (before ++ job :: after).flatMap ScrapeJob.unsupported ++
        before.flatMap ScrapeJob.findings ++ [.error (s.modeMessage ++ " in " ++ job.context)] ++
        after.flatMap ScrapeJob.findings ++ closing := by
  intro full reduced
  have hmode : s.mode? = none := by
    simp only [List.mem_cons, List.not_mem_nil, or_false, not_or] at htype
    rw [Subscription.mode?, if_neg (not_or.2 ⟨htype.1, htype.2.1⟩), if_neg htype.2.2]
  have hfault : job.modeFault? = some (.error (s.modeMessage ++ " in " ++ job.context)) := by
    rw [ScrapeJob.modeFault?, hs, Option.bind_some, hmode]
    rfl
  have hconverted :
      ScrapeJob.converted (before ++ job :: after) = ScrapeJob.converted (before ++ after) := by
    rw [ScrapeJob.converted, ScrapeJob.converted, List.filter_append, List.filter_append,
      List.filter_cons_of_neg (by simp [hfault])]
  obtain ⟨hblocks, hlabels⟩ := host.relates_draft registry hconverted .empty
  refine ⟨?_, hlabels, ?_⟩
  · have hdocument : (full.standalone registry).document = (reduced.standalone registry).document :=
      congrArg (List.map Block.statement) hblocks
    rw [SourceConfig.convert_eq, SourceConfig.convert_eq, hdocument]
  · obtain ⟨opening, closing, hfindings⟩ := host.exists_findings registry
    have hjob : job.findings = [.error (s.modeMessage ++ " in " ++ job.context)] := by
      rw [ScrapeJob.findings, hfault]
    refine ⟨opening, closing, ?_, ?_⟩
    · rw [hfindings, List.flatMap_append (f := ScrapeJob.findings)]
      simp only [List.append_assoc]
    · rw [hfindings, List.flatMap_append (f := ScrapeJob.findings), List.flatMap_cons, hjob]
      simp only [List.append_assoc]

/-- Two jobs of one name keep their labels when the one between them fails. -/
theorem convert_failed_job_between :
    let host := alone { clients := [{ url := "http://loki" }] }
    let job (type : String) : ScrapeJob :=
      { name := "gcp", subscription := some { subscriptionType := type } }
    ((host.config ([job "pull"] ++ job "poll" :: [job "push"])).convert .builtin).document =
      ((host.config ([job "pull"] ++ [job "push"])).convert .builtin).document :=
  (convert_failed_job .builtin _ [_] [_] _ rfl (by decide)).1

end JobHost

end AgentConvert
