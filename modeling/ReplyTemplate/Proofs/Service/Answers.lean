import Mathlib.Data.List.Forall2
import ReplyTemplate.Proofs.Json.Writer
import ReplyTemplate.Proofs.Service.Isolation
import ReplyTemplate.Proofs.Service.Request
import ReplyTemplate.Proofs.Text.Lines

/-! What the lines of a text are answered. -/

namespace ReplyTemplate

open Standard (Counters)

namespace Response

def memberNames : List String := ["id", "output", "result", "error", "fallback"]

theorem exists_members (response : Response) :
    ∃ members, response.toJson = .object members ∧
      members.map Prod.fst =
        memberNames.filter fun name => (response.toJson.named? name).isSome := by
  refine ⟨_, rfl, ?_⟩
  obtain ⟨_ | id, _ | _ | ⟨report, _ | fallback⟩⟩ := response <;>
    simp [toJson, Json.present, Json.named?, memberNames]

end Response

namespace Service

variable {service : Service} {explain : String → String}

end Service

end ReplyTemplate
