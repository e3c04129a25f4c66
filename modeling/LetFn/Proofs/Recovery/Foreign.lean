import LetFn.Proofs.Grammar.Complete
import LetFn.Proofs.Recovery.Faults

/-!
# Foreign characters are reported once

A foreign character is an illegal token by itself, whatever stands next to it, and an illegal token
is reported once, whatever the reader was about when it came upon it. So of a source as many illegal
tokens are reported as it has foreign characters (`count_illegal_errors_parse`), and a source
without errors has none.
-/

namespace LetFn

/-- As many illegal tokens are reported as there are foreign characters. A source without errors has
ASCII characters only. -/
theorem count_illegal_errors_parse (source : String) :
    (parse source).errors.count (.noExpression .illegal) = source.toList.countP isForeign ∧
      ((parse source).errors = [] → ∀ c ∈ source.toList, c.toNat < 128) := by
  have counted : (parse source).errors.count (.noExpression .illegal) =
      source.toList.countP isForeign := by
    rw [parse, count_illegal_errors (eofless_tokens source), tokens_eq_scan,
      countKind_illegal_scan]
  refine ⟨counted, fun clean c hc => ?_⟩
  rw [clean, List.count_nil] at counted
  have own := List.countP_eq_zero.mp counted.symm c hc
  exact toNat_lt_of_isForeign_eq_false (Bool.eq_false_iff.mpr own)

end LetFn
