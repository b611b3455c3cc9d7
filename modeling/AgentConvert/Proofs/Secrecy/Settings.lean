import AgentConvert.Proofs.Secrecy.Alike
import AgentConvert.Proofs.Settings.Fields

/-!
# Clients that differ in secrets

Settings agree if they are the same but for the texts of secrets. These are related, and both are
empty or neither is: an empty password is left out (`BasicAuth.block`). What clients that agree
become is alike (`HttpClient.Agrees.alike`), and the same is said about them
(`HttpClient.Agrees.findings`).
-/

namespace AgentConvert

open Argument

/-- Whether the texts of two secrets are related, and both are empty or neither is. -/
structure Secret.Agrees (r : String → String → Prop) (s t : Secret) : Prop where
  isEmpty : s.isEmpty = t.isEmpty
  text : r s.text t.text

variable {R : Pairing}

theorem Fields.Alike.secret {name : String} {s t : Option Secret}
    (hname : name ∈ secretAttributes) (h : Option.Rel (Secret.Agrees (R name)) s t) :
    Fields.Alike R (Field.optional name .secret s) (Field.optional name .secret t) :=
  .optional (fun h => .secret hname h.text) h

theorem isSome_of_rel {α : Type} {r : α → α → Prop} {v w : Option α} (h : Option.Rel r v w) :
    v.isSome = w.isSome := by
  cases h <;> rfl

theorem isEmpty_of_forall₂ {α : Type} {r : α → α → Prop} {as bs : List α}
    (h : List.Forall₂ r as bs) : as.isEmpty = bs.isEmpty := by
  cases h <;> rfl

/-- Items of one's own, or else those that all share. -/
theorem forall₂_orShared {α : Type} {r : α → α → Prop} {as bs ds es : List α}
    (h : List.Forall₂ r as bs) (hshared : List.Forall₂ r ds es) :
    List.Forall₂ r (if as.isEmpty then ds else as) (if bs.isEmpty then es else bs) := by
  rw [isEmpty_of_forall₂ h]
  split
  · exact hshared
  · exact h

/-- Secrets that are not empty. -/
theorem Secret.Agrees.filter {r : String → String → Prop} {s t : Option Secret}
    (h : Option.Rel (Secret.Agrees r) s t) :
    Option.Rel (Secret.Agrees r) (s.filter fun p => !p.isEmpty) (t.filter fun p => !p.isEmpty) := by
  cases h with
  | none => exact .none
  | @some s t h =>
    rw [Option.filter_some, Option.filter_some, h.isEmpty]
    split
    · exact .some h
    · exact .none

/-! ## Authentication -/

/-- Whether two users are the same but for the text of the password. -/
inductive BasicAuth.Agrees (R : Pairing) : BasicAuth → BasicAuth → Prop
  | intro (a : BasicAuth) {password : Option Secret}
    (hpassword : Option.Rel (Secret.Agrees (R "password")) a.password password) :
    Agrees R a { a with password }

theorem BasicAuth.Agrees.alike {name : String} {a b : BasicAuth} (h : a.Agrees R b) :
    a.block.AlikeAs R name b.block := by
  cases h with
  | intro hpassword =>
    have hfilter := Secret.Agrees.filter hpassword
    exact .blockOf (.append (.append .same (.secret (by decide) hfilter)) .same)

/-- Whether two ways to authorize are the same but for the text of the credentials. -/
inductive Authorization.Agrees (R : Pairing) : Authorization → Authorization → Prop
  | intro (a : Authorization) {credentials : Option Secret}
    (hcredentials : Option.Rel (Secret.Agrees (R "credentials")) a.credentials credentials) :
    Agrees R a { a with credentials }

theorem Authorization.Agrees.alike {name : String} {a b : Authorization} (h : a.Agrees R b) :
    a.block.AlikeAs R name b.block := by
  cases h with
  | intro hcredentials =>
    exact .blockOf (.append (.append .same (.secret (by decide) hcredentials)) .same)

/-! ## Clients -/

@[simp] theorem TlsSettings.takesName_block (tls : TlsSettings) : tls.block.TakesName :=
  takesName_blockOf _

/-- Whether two clients are the same but for the texts of secrets. -/
inductive HttpClient.Agrees (R : Pairing) : HttpClient → HttpClient → Prop
  | intro (a : HttpClient) {basicAuth : Option BasicAuth} {authorization : Option Authorization}
    {bearerToken : Option Secret} (hbasic : Option.Rel (BasicAuth.Agrees R) a.basicAuth basicAuth)
    (hauthorization : Option.Rel (Authorization.Agrees R) a.authorization authorization)
    (hbearer : Option.Rel (Secret.Agrees (R "bearer_token")) a.bearerToken bearerToken) :
    Agrees R a { a with basicAuth, authorization, bearerToken }

namespace HttpClient.Agrees

variable {a b : HttpClient}

theorem alike (h : a.Agrees R b) : Fields.Alike R a.arguments b.arguments := by
  cases h with
  | intro hbasic hauthorization hbearer =>
    have hfront : Fields.Alike R (Field.optional "bearer_token" .secret a.bearerToken)
        (Field.optional "bearer_token" .secret _) := .secret (by decide) hbearer
    refine .append (.append (.append (.append (.append (.append (.append hfront .same) .same) .same)
      .same) ?_) ?_) .same
    · exact .optional BasicAuth.Agrees.alike hbasic
    · exact .optional Authorization.Agrees.alike hauthorization

theorem findings (h : a.Agrees R b) (context : String) :
    a.findings context = b.findings context := by
  cases h with
  | intro hbasic hauthorization hbearer =>
    rw [HttpClient.findings, HttpClient.findings, isSome_of_rel hauthorization,
      isSome_of_rel hbearer]

end HttpClient.Agrees

end AgentConvert
