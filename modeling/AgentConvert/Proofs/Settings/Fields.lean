import AgentConvert.Proofs.Argument.Fields
import AgentConvert.Settings.Http
import AgentConvert.Settings.Relabel
import AgentConvert.Settings.Server

/-!
# Fields of common settings

The settings that many components share are fields and nested blocks that can stand in a block,
whatever references and placeholders the component has besides them.
-/

namespace AgentConvert

open Argument

variable {refs : List String} {holes : List Placeholder}

/-! ## HTTP clients -/

@[simp] theorem BasicAuth.isPart_block (auth : BasicAuth) :
    auth.block.IsPart (Special.Uses refs holes) := by
  simp [block]

@[simp] theorem Authorization.isPart_block (auth : Authorization) :
    auth.block.IsPart (Special.Uses refs holes) := by
  simp [block]

@[simp] theorem TlsSettings.isPart_block (tls : TlsSettings) :
    tls.block.IsPart (Special.Uses refs holes) := by
  simp [block]

@[simp] theorem HttpClient.areParts_arguments (client : HttpClient) :
    AreParts (Special.Uses refs holes) client.arguments := by
  simp [arguments]

/-! ## Relabel rules -/

@[simp] theorem RelabelRule.isPart_blocks (rules : List RelabelRule) :
    (blocks rules).IsPart (Special.Uses refs holes) := by
  refine isPart_list_blocks rules fun r => ⟨rfl, ?_⟩
  simp [block]

/-! ## Targets -/

namespace TargetSource

/-- The references of a source of targets. -/
def references : TargetSource → List String
  | listed _ => []
  | exported path => [path]
  | joined paths => paths

@[simp] theorem isPart_argument (source : TargetSource) :
    source.argument.IsPart (Special.Uses refs holes) ↔ ∀ path ∈ source.references, path ∈ refs := by
  cases source <;> simp [argument, references]

theorem references_ofExports (paths : List String) : (ofExports paths).references = paths := by
  match paths with
  | [] => rfl
  | [path] => rfl
  | path :: path' :: paths => rfl

end TargetSource

/-! ## Servers -/

namespace ServerSettings

@[simp] theorem areParts_blockUnlessEmpty (name : String) (isEmpty : Bool) (fields : Fields) :
    AreParts (Special.Uses refs holes) (blockUnlessEmpty name isEmpty fields) ↔
      (isEmpty = false → AreParts (Special.Uses refs holes) fields) := by
  cases isEmpty <;> simp [blockUnlessEmpty]

@[simp] theorem areParts_arguments (s : ServerSettings) :
    AreParts (Special.Uses refs holes) s.arguments := by
  simp [arguments, httpFields, grpcFields]

/-- The arguments of the `logging` block are a record of plain fields. -/
theorem logging?_fields {s : ServerSettings} {args : Argument} (h : s.logging? = some args) :
    ∃ fields, args = .record fields ∧ AreParts (Special.Uses refs holes) fields := by
  simp only [logging?] at h
  split at h
  · exact absurd h (by simp)
  · obtain rfl := Option.some.inj h
    exact ⟨_, rfl, by simp⟩

end ServerSettings

end AgentConvert
