/-!
# Controls

A control is something that can be clicked. At most one handler is bound to it,
and a click is delivered to the handler that was bound when it happened.
Handlers are told apart by number, so that a click that arrives late can be
recognised and dropped.
-/

namespace RankedBars

/-- One installed click handler. -/
structure HandlerId where
  number : UInt64
deriving DecidableEq, Inhabited

namespace HandlerId

def first : HandlerId := ⟨1⟩

def next (id : HandlerId) : HandlerId := ⟨id.number + 1⟩

def text (id : HandlerId) : String := "handler#" ++ toString id.number.toNat

end HandlerId

/-- A click on its way to a handler, and whether what it would do by itself was
called off. -/
structure ClickEvent where
  prevented : Bool := false
deriving DecidableEq, Inhabited

def ClickEvent.prevent (_ : ClickEvent) : ClickEvent := ⟨true⟩

/-- A button with a text, which may be hidden. -/
structure Button where
  text : String := ""
  visible : Bool := true
  handler : Option HandlerId := none
  rebinds : Nat := 0
deriving DecidableEq, Inhabited

namespace Button

/-- Binds a handler in place of the one that is bound, or leaves the button
without one. -/
def bind (b : Button) (handler : Option HandlerId) : Button :=
  { b with handler, rebinds := if handler.isSome then b.rebinds + 1 else b.rebinds }

/-- The handler that a click would reach right now. -/
def clickTarget (b : Button) : Option HandlerId := if b.visible then b.handler else none

/-- The button without a handler and out of sight. -/
def hide (b : Button) : Button := { b with visible := false }.bind none

@[simp] theorem handler_bind (b : Button) (handler : Option HandlerId) :
    (b.bind handler).handler = handler := rfl

@[simp] theorem handler_hide (b : Button) : b.hide.handler = none := rfl

@[simp] theorem visible_hide (b : Button) : b.hide.visible = false := rfl

@[simp] theorem clickTarget_hide (b : Button) : b.hide.clickTarget = none := rfl

end Button

end RankedBars
