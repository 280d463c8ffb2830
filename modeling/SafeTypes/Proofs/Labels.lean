import SafeTypes.ErrorCode
import SafeTypes.Proofs.Numerals
import SafeTypes.Proofs.Trimming

/-! The labels of error codes. The family ends at the first dash, and the numeral of the number is
all that follows, with a dash of its own if the number is negative. So a label says which code it
is the label of, up to the title. -/
namespace SafeTypes.ErrorCode

/-- With a dash in its family a code can have the label of another one. -/
example : label ⟨"T-", 1000, ""⟩ = label ⟨"T", -1000, ""⟩ := by decide

end SafeTypes.ErrorCode
