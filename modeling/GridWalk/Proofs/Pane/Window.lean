import GridWalk.Proofs.Grid.Layout
import GridWalk.Proofs.Session.Selection

namespace GridWalk

namespace Scroll

section Offset

variable {focus total visible : Nat}

end Offset

end Scroll

namespace Pane

section Window

variable {items : List Nat} {focus total visible index : Nat}

end Window

namespace GridView

section Shows

variable {view : GridView} {area : Area}

end Shows

end GridView

namespace MemoryView

end MemoryView

namespace OutputView

section Shows

variable {view : OutputView}

end Shows

end OutputView

end Pane

open Pane Session

end GridWalk
