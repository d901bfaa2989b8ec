import WordSums.Http.Messages
import WordSums.Proofs.Ledger.Written

/-!
# Messages that are read back

Each body is written so that the other side reads the same message, whether a reason or a kind is there or
left out. Only an answer has a reader that knows fewer values than can be written, those that fit a word; but
no two answers are ever written alike.
-/

namespace WordSums.Http

open WordSums.Json WordSums.Text

theorem recovers_request (question : String) : Recovers requestReader (requestDocument question) question := by
  exact recovers_record (.member rfl rfl (recovers_member (recovers_string question) _ _) (.done _)) rfl

namespace EvaluateResponse

theorem recovers {response : EvaluateResponse} (hfits : fitsWord response.result) :
    Recovers reader response.document response := by
  exact recovers_record (.member rfl rfl (recovers_member (recovers_word hfits) _ _) (.done _)) rfl

theorem compact_injective {left right : EvaluateResponse} (hsame : left.document.compact = right.document.compact) :
    left = right := by
  have hshape (response : EvaluateResponse) : response.document .compact =
      "\x7b\"result\":".toList ++ (Document.integer response.result .compact ++ ['\x7d']) := by
    simp [document, Document.object, Document.enclosed, Document.member, written, escapedChar, Layout.inner,
      Layout.lineBreak, Layout.colon]
  have htexts := String.ofList_injective hsame
  rw [hshape, hshape] at htexts
  have hintegers := List.append_cancel_right (List.append_cancel_left htexts)
  exact congrArg EvaluateResponse.mk (integer_injective hintegers)

end EvaluateResponse

theorem ValidateResponse.recovers (response : ValidateResponse) : Recovers reader response.document response := by
  obtain ⟨valid, reason⟩ := response
  cases reason with
  | none => exact recovers_record (.member rfl rfl (recovers_member (recovers_boolean valid) _ _) (.done _)) rfl
  | some reason =>
    have hreason := recovers_optional (recovers_string reason)
    exact recovers_record (.member rfl rfl (recovers_member (recovers_boolean valid) _ _)
      (.member rfl rfl (recovers_member hreason _ _) (.done _))) rfl

theorem ErrorResponse.recovers (response : ErrorResponse) : Recovers reader response.document response := by
  obtain ⟨message, kind⟩ := response
  cases kind with
  | none => exact recovers_record (.member rfl rfl (recovers_member (recovers_string message) _ _) (.done _)) rfl
  | some kind =>
    have hkind := recovers_optional (recovers_label kind.ofLabel?_label)
    exact recovers_record (.member rfl rfl (recovers_member (recovers_string message) _ _)
      (.member rfl rfl (recovers_member hkind _ _) (.done _))) rfl

namespace ListedFailure

theorem recovers (listed : ListedFailure) : Recovers reader listed.document listed := by
  exact recovers_record (.member rfl rfl (recovers_member (recovers_string listed.expression) _ _)
    (.member rfl rfl (recovers_member (recovers_string listed.endpoint) _ _)
      (.member rfl rfl (recovers_member (recovers_unsigned64 listed.frequency) _ _)
        (.member rfl rfl (recovers_member (recovers_label listed.kind.ofLabel?_label) _ _) (.done _))))) rfl

theorem recovers_listing (all : List ListedFailure) :
    Recovers (Reader.list reader) (.array (all.map document)) all :=
  recovers_list fun listed _ => listed.recovers

end ListedFailure

end WordSums.Http
