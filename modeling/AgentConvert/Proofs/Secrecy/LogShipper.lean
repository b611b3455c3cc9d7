import AgentConvert.Proofs.LogShipper.Findings
import AgentConvert.Proofs.Routing.Sources
import AgentConvert.Proofs.Secrecy.Settings

/-!
# Log shippers that differ in secrets

The secrets of a log shipper stand in its clients and in the sources that pull from a content
delivery network. Log shippers that agree hand out the same labels, say the same, and become
documents that are alike (`LogShipper.Config.Agrees.convert`).
-/

namespace AgentConvert.LogShipper

open Argument

variable {R : Pairing}

/-! ## Clients -/

/-- Whether two clients are the same but for the texts of secrets. -/
inductive Client.Agrees (R : Pairing) : Client → Client → Prop
  | intro (a : Client) {http : HttpClient} (hhttp : a.http.Agrees R http) :
    Agrees R a { a with http }

theorem Client.Agrees.alike {a b : Client} (h : a.Agrees R b) :
    Fields.Alike R a.arguments b.arguments := by
  cases h with
  | intro hhttp => exact .append (.always (.blockOf (.append .same hhttp.alike))) .same

theorem Client.Agrees.writeDraft {a b : Client} (h : a.Agrees R b) (label : String) :
    (Config.writeDraft a label).Alike R (Config.writeDraft b label) :=
  .block (Config.areParts_write [] a) (Config.areParts_write [] b) h.alike

/-! ## Sources -/

/-- Whether two sources that pull from a content delivery network are the same but for the text of
the token. -/
inductive CloudflareSource.Agrees (R : Pairing) : CloudflareSource → CloudflareSource → Prop
  | intro (a : CloudflareSource) {apiToken : Secret}
    (htoken : Secret.Agrees (R "api_token") a.apiToken apiToken) : Agrees R a { a with apiToken }

theorem CloudflareSource.Agrees.alike {a b : CloudflareSource} (h : a.Agrees R b) :
    Fields.Alike R a.block.arguments b.block.arguments := by
  cases h with
  | intro htoken =>
    simp only [CloudflareSource.block, List.append_assoc]
    refine .append (.always (.secret (by decide) htoken.text)) ?_
    exact .of_areOpen (p := Special.Uses [] [.logsReceivers]) (by simp)
      (by simp (disch := decide) [forwardToJob])

/-- Whether two sources say the same and become blocks that are alike, whatever fills them in. -/
def SourceBlock.Alike (R : Pairing) (s t : SourceBlock) : Prop :=
  ∀ (g : Special → Special.Answer) (label : String), (∀ s, g (.secret s) = .error (.secret s)) →
    (Draft.report s.findings ++
      .blockWith (overrideBy g) s.kind label (.record s.arguments)).Alike R
    (.report t.findings ++ .blockWith (overrideBy g) t.kind label (.record t.arguments))

/-- A source without secrets is alike itself. -/
theorem SourceBlock.rel_same {s : Option SourceBlock}
    (h : ∀ b ∈ s, b.kind.segments ∉ secretBlocks) : Option.Rel (SourceBlock.Alike R) s s := by
  cases s with
  | none => exact .none
  | some s => exact .some fun g label _ => .refl (by simp [h s rfl])

theorem CloudflareSource.Agrees.block {a b : Option CloudflareSource}
    (h : Option.Rel (CloudflareSource.Agrees R) a b) :
    Option.Rel (SourceBlock.Alike R) (a.map (·.block)) (b.map (·.block)) := by
  cases h with
  | none => exact .none
  | @some a b h =>
    have hparts : ∀ c : CloudflareSource,
        AreParts (Special.Uses [] [.logsReceivers]) c.block.arguments := fun c => by
      simp [CloudflareSource.block]
    exact .some fun g label hg =>
      .append (.report rfl) (.blockWith hg (hparts a) (hparts b) h.alike)

/-! ## Jobs -/

namespace ScrapeJob

/-- Whether two jobs are the same but for the texts of secrets. -/
inductive Agrees (R : Pairing) : ScrapeJob → ScrapeJob → Prop
  | intro (a : ScrapeJob) {cloudflare : Option CloudflareSource}
    (hcloudflare : Option.Rel (CloudflareSource.Agrees R) a.cloudflare cloudflare) :
    Agrees R a { a with cloudflare }

namespace Agrees

variable {a b : ScrapeJob}

theorem relabelsPulled (h : a.Agrees R b) : a.relabelsPulled = b.relabelsPulled := by
  cases h with
  | intro hcloudflare =>
    rw [ScrapeJob.relabelsPulled, ScrapeJob.relabelsPulled, pulls, pulls,
      isSome_of_rel hcloudflare]
    rfl

/-- The rest of a job does not depend on its sources that pull. -/
theorem fillIn (h : a.Agrees R b) (around : Surroundings) (label : String) :
    a.fillIn around label = b.fillIn around label := by
  have hreceivers : a.pulledReceivers around label = b.pulledReceivers around label := by
    rw [pulledReceivers, pulledReceivers, h.relabelsPulled]
    cases h
    rfl
  funext v
  unfold ScrapeJob.fillIn
  rw [hreceivers]

theorem source (h : a.Agrees R b) (around : Surroundings) (label : String) (s : Source) :
    Option.Rel (SourceBlock.Alike R) (s.block? around a label) (s.block? around b label) := by
  cases h with
  | intro hcloudflare =>
    cases s with
    | cloudflare => exact CloudflareSource.Agrees.block hcloudflare
    | _ =>
      refine SourceBlock.rel_same fun c hc => ?_
      rw [Source.kind_block? hc]
      decide

theorem sources (h : a.Agrees R b) (around : Surroundings) (label : String) :
    List.Forall₂ (SourceBlock.Alike R) (a.sources around label) (b.sources around label) := by
  rw [Source.sources_eq, Source.sources_eq]
  refine List.rel_filterMap (R := Eq) ?_ (List.forall₂_same.2 fun _ _ => rfl)
  rintro s _ rfl
  exact h.source around label s

theorem draft (h : a.Agrees R b) (around : Surroundings) (label : String) :
    (a.draft around label).Alike R (b.draft around label) := by
  have hsources : (Draft.concat ((a.sources around label).map (a.sourceDraft around label))).Alike R
      (.concat ((b.sources around label).map (b.sourceDraft around label))) := by
    refine .concat (List.rel_map (fun s t hst => ?_) (h.sources around label))
    rw [sourceDraft, sourceDraft, ← h.fillIn]
    exact hst _ label fun _ => rfl
  have hpulled : (Draft.when a.relabelsPulled (a.pulledRules around label)).Alike R
      (.when b.relabelsPulled (b.pulledRules around label)) := by
    rw [← h.relabelsPulled]
    cases h
    exact .refl (by simp +decide [ScrapeJob.pulledRules])
  cases h with
  | intro hcloudflare =>
    refine .append (.append (.append (.append (.append (.append ?_ ?_) ?_) ?_) hsources) hpulled) ?_
    · exact .report rfl
    · exact .report rfl
    · exact .refl (by simp +decide [ScrapeJob.targetRules])
    · exact .refl (by simp +decide [ScrapeJob.files])
    · exact .refl (by simp +decide [ScrapeJob.processing])

theorem convert (h : a.Agrees R b) (around : Surroundings) :
    Labelling.Relates (Draft.Alike R) (a.convert around) (b.convert around) := by
  have hfault : a.modeFault? = b.modeFault? := by
    cases h
    rfl
  have hname : a.name = b.name := by
    cases h
    rfl
  rw [ScrapeJob.convert, ScrapeJob.convert, ← hfault, ← hname]
  cases a.modeFault? with
  | some fault => exact Labelling.relates_pure (.report rfl)
  | none =>
    refine Labelling.relates_bind (Labelling.relates_refl _) fun label _ hlabel => ?_
    subst hlabel
    exact Labelling.relates_pure (h.draft around label)

end Agrees

end ScrapeJob

/-! ## Configurations -/

namespace Config

/-- Whether two configurations are the same but for the texts of secrets. -/
inductive Agrees (R : Pairing) : Config → Config → Prop
  | intro (a : Config) {clients : List Client} {jobs : List ScrapeJob}
    (hclients : List.Forall₂ (Client.Agrees R) a.clients clients)
    (hjobs : List.Forall₂ (ScrapeJob.Agrees R) a.jobs jobs) : Agrees R a { a with clients, jobs }

namespace Agrees

variable {a b : Config}

/-- What is said about clients is the same, if they agree. -/
theorem clients {as bs : List Client} (h : List.Forall₂ (Client.Agrees R) as bs)
    (context : Nat → String) :
    (as.zipIdx.flatMap fun (c, i) => c.http.findings (context i)) =
      bs.zipIdx.flatMap fun (c, i) => c.http.findings (context i) := by
  rw [List.zipIdx_eq_zip_range', List.zipIdx_eq_zip_range', h.length_eq]
  refine flatMap_eq_of_forall₂ ((forall₂_zip h _).imp ?_)
  rintro ⟨a, i⟩ ⟨b, _⟩ ⟨⟨hhttp⟩, rfl⟩
  exact hhttp.findings _

theorem findings (h : a.Agrees R b) : a.findings = b.findings := by
  cases h with
  | @intro clients jobs hclients hjobs =>
    have hempty := isEmpty_of_forall₂ hclients
    have hclients := Agrees.clients hclients fun i => "clients[" ++ toString i ++ "]"
    have hown : Config.findings { a with jobs := [] } =
        Config.findings { a with clients, jobs := [] } := by
      simp only [Config.findings, hempty, hclients]
    have hunsupported : a.jobs.flatMap ScrapeJob.unsupported = jobs.flatMap ScrapeJob.unsupported :=
      flatMap_eq_of_forall₂ (hjobs.imp fun _ _ h => by cases h; rfl)
    rw [findings_eq a, hown, hunsupported]
    exact (findings_eq { a with clients, jobs }).symm

theorem writeLabels (h : a.Agrees R b) (labelBase : String) :
    Labelling.Relates Eq (a.writeLabels labelBase) (b.writeLabels labelBase) := by
  cases h with
  | intro hclients _ =>
    have hmapM := Labelling.relates_mapM (hclients.imp fun _ _ _ => Labelling.relates_refl
      (Labelling.fresh Kind.write.name (if labelBase = "" then "default" else labelBase)))
    rwa [List.forall₂_eq_eq_eq] at hmapM

theorem writes (h : a.Agrees R b) (labels : List String) :
    (a.writes labels).Alike R (b.writes labels) := by
  cases h with
  | intro hclients _ =>
    refine .concat (List.rel_map ?_ (forall₂_zip hclients labels))
    rintro ⟨c, label⟩ ⟨d, _⟩ ⟨hcd, rfl⟩
    exact hcd.writeDraft label

theorem convertJobs (h : a.Agrees R b) (labelBase : String) :
    Labelling.Relates (Draft.Alike R) (a.convertJobs labelBase) (b.convertJobs labelBase) := by
  rw [convertJobs_eq, convertJobs_eq]
  refine Labelling.relates_bind (h.writeLabels labelBase) fun labels _ heq => ?_
  subst heq
  have hfindings := h.findings
  have hwrites := h.writes labels
  cases h with
  | intro _ hjobs =>
    refine Labelling.relates_bind (Labelling.relates_mapM (hjobs.imp fun _ _ h => h.convert _))
      fun ds es hdrafts => Labelling.relates_pure ?_
    exact .append (.append (.report hfindings) (.concat hdrafts)) hwrites

theorem convert (h : a.Agrees R b) :
    Labelling.Relates (Draft.Alike R) a.convert b.convert := by
  have hserver : a.server = b.server := by
    cases h
    rfl
  rw [Config.convert, Config.convert, ← hserver]
  refine Labelling.relates_bind (h.convertJobs "") fun d e hde => Labelling.relates_pure ?_
  refine .append (.refl ?_) hde
  rw [Draft.isOpen_append]
  exact ⟨Draft.isOpen_report _, Draft.isOpen_ofOption fun _ _ => Draft.isOpen_block (by decide)⟩

end Agrees

end Config

end AgentConvert.LogShipper
