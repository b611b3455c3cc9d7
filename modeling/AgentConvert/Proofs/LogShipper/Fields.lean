import AgentConvert.LogShipper.Job
import AgentConvert.Proofs.Settings.Fields

/-!
# Fields of a log shipper's components

The arguments of every component that a log shipper becomes can stand in a block. A source that is
pushed to refers to its receivers and may ask for the job's relabel rules; a source that pulls asks
the job where to forward to.
-/

namespace AgentConvert.LogShipper

open Argument

variable {refs : List String} {holes : List Placeholder}

/-! ## Clients and stages -/

@[simp] theorem Client.areParts_arguments (c : Client) :
    AreParts (Special.Uses refs holes) c.arguments := by
  simp [arguments]

theorem Stage.areParts_fields (s : Stage) : AreParts (Special.Uses refs holes) s.fields := by
  cases s <;> simp [fields]

@[simp] theorem Stage.isPart_blocks (stages : List Stage) :
    (Argument.list (stages.map Stage.block)).IsPart (Special.Uses refs holes) :=
  isPart_list_blocks stages fun s => ⟨rfl, rfl, s.areParts_fields⟩

/-! ## Sources -/

namespace Outlet

@[simp] theorem areParts_forwardTo (o : Outlet) :
    AreParts (Special.Uses refs holes) o.forwardTo ↔ ∀ path ∈ o.receivers, path ∈ refs := by
  simp [forwardTo]

@[simp] theorem areParts_relabelRules (o : Outlet) :
    AreParts (Special.Uses refs holes) o.relabelRules ↔ ∀ h ∈ o.rules, h ∈ holes := by
  simp [relabelRules]

end Outlet

@[simp] theorem Subscription.areParts_modeFields (s : Subscription) (mode : SubscriptionMode) :
    AreParts (Special.Uses refs holes) (s.modeFields mode) := by
  cases mode <;> simp [modeFields, sharedFields]

@[simp] theorem SyslogListener.isPart_listener (l : SyslogListener) :
    l.listener.IsPart (Special.Uses refs holes) := by
  simp [listener]

@[simp] theorem areParts_forwardToJob :
    AreParts (Special.Uses refs holes) forwardToJob ↔ .logsReceivers ∈ holes := by
  simp [forwardToJob]

/-- What the sources of a job use: the receivers behind the rules, and what the job fills in. -/
theorem ScrapeJob.areParts_sources {around : Surroundings} {job : ScrapeJob} {label : String}
    {s : SourceBlock} (h : s ∈ job.sources around label)
    (hrefs : ∀ path ∈ job.receivers around label, path ∈ refs)
    (hrules : job.relabelsTargets = true → .relabelRules ∈ holes)
    (hpulls : job.pulls = true → .logsReceivers ∈ holes) :
    AreParts (Special.Uses refs holes) s.arguments := by
  simp only [sources, List.mem_filterMap, id_eq, exists_eq_right, List.mem_cons, List.not_mem_nil,
    or_false] at h
  rcases h with h | h | h | h | h | h | h
  · obtain ⟨g, -, hg⟩ := Option.bind_eq_some_iff.1 h.symm
    obtain ⟨mode, -, rfl⟩ := Option.map_eq_some_iff.1 hg
    simpa [Subscription.block] using ⟨hrefs, hrules⟩
  · obtain ⟨g, -, rfl⟩ := Option.map_eq_some_iff.1 h.symm
    simpa [GelfListener.block] using ⟨hrules, hrefs⟩
  · obtain ⟨r, -, rfl⟩ := Option.map_eq_some_iff.1 h.symm
    simpa [PushReceiver.block] using ⟨hrefs, hrules⟩
  · obtain ⟨r, -, rfl⟩ := Option.map_eq_some_iff.1 h.symm
    simpa [PushReceiver.block] using ⟨hrefs, hrules⟩
  · obtain ⟨l, -, rfl⟩ := Option.map_eq_some_iff.1 h.symm
    simpa [SyslogListener.block] using ⟨hrefs, hrules⟩
  · obtain ⟨c, hc, rfl⟩ := Option.map_eq_some_iff.1 h.symm
    simpa [CloudflareSource.block] using hpulls (by simp [pulls, hc])
  · obtain ⟨e, he, rfl⟩ := Option.map_eq_some_iff.1 h.symm
    simpa [EventLogSource.block] using hpulls (by simp [pulls, he])

end AgentConvert.LogShipper
