import WireOrder.Layout

/-!
# Sessions

A session is a buffer that is converted in place, part by part, under format
texts or under layouts that were read before and are kept by name.  Every
command gives a reply and leaves a session; a command that fails reports the
fault and may still have changed part of the buffer, as the conversion it
runs does.
-/

namespace WireOrder

/-- A part of a buffer, from one offset up to another or up to the end. -/
structure Window where
  low : Nat
  high : Option Nat

namespace Window

/-- The part of the buffer inside the window. -/
def inside (window : Window) (buffer : Bytes) : Bytes :=
  let upper := window.high.getD buffer.length
  (buffer.take upper).drop window.low

/-- The buffer with the part inside the window replaced. -/
def replace (window : Window) (buffer inner : Bytes) : Bytes :=
  let upper := window.high.getD buffer.length
  buffer.take window.low ++ inner ++ buffer.drop (max window.low upper)

end Window

/-- A buffer and the layouts kept beside it. -/
structure Session where
  buffer : Bytes
  /-- The layouts by name; of two with one name the first counts. -/
  layouts : List (String × Layout)

namespace Session

/-- A session with no layouts. -/
def start (buffer : Bytes) : Session :=
  ⟨buffer, []⟩

/-- The layout of a name. -/
def layout? (session : Session) (name : String) : Option Layout :=
  session.layouts.lookup name

/-- Keep a layout under a name, in place of any other. -/
def keep (session : Session) (name : String) (layout : Layout) : Session :=
  { session with layouts := (name, layout) :: session.layouts }

/-- What can be asked of a session. -/
inductive Command where
  /-- Read a format and keep its layout. -/
  | compile (name : String) (format : String)
  /-- Keep the layout of one name under another as well. -/
  | clone (name origin : String)
  /-- Compare two layouts. -/
  | compare (left right : String)
  /-- Read the text of a layout again and compare. -/
  | reread (name : String)
  /-- Convert a part of the buffer under a layout. -/
  | run (name : String) (direction : Direction) (window : Window)
  /-- Convert a part of the buffer under a format text. -/
  | convert (format : String) (direction : Direction) (window : Window)
  /-- Convert a copy of a part of the buffer. -/
  | copy (format : String) (direction : Direction) (window : Window)
  /-- Add bytes at the end of the buffer. -/
  | append (bytes : Bytes)
  /-- Cut the buffer to a length, if it is longer. -/
  | truncate (length : Nat)

/-- What a session replies. -/
inductive Reply where
  | kept (layout : Layout)
  | done
  | verdict (holds : Bool)
  | length (bytes : Nat)
  | bytes (content : Bytes)
  | refused (fault : Fault)
  | unknownLayout (name : String)

/-- Put the outcome of converting a window back into the buffer.  The reply
is the length of the window, or the fault. -/
def settle (session : Session) (window : Window)
    (conversion : Conversion) : Reply × Session :=
  let reply :=
    match conversion.fault with
    | none => Reply.length conversion.buffer.length
    | some fault => Reply.refused fault
  (reply, { session with
    buffer := window.replace session.buffer conversion.buffer })

/-- Reply from the layout of a name, if there is one. -/
def withLayout (session : Session) (name : String)
    (act : Layout → Traced (Reply × Session)) : Traced (Reply × Session) :=
  match session.layout? name with
  | none => pure (.unknownLayout name, session)
  | some layout => act layout

/-- Carry out one command. -/
def perform (session : Session) (command : Command) :
    Traced (Reply × Session) :=
  match command with
  | .compile name format => do
      match ← Layout.parseTraced format with
      | .ok layout => return (.kept layout, session.keep name layout)
      | .error fault => return (.refused fault, session)
  | .clone name origin =>
      session.withLayout origin fun layout =>
        pure (.done, session.keep name layout)
  | .compare left right =>
      session.withLayout left fun first =>
        session.withLayout right fun second =>
          pure (.verdict (decide (first = second)), session)
  | .reread name =>
      session.withLayout name fun layout => do
        match ← Layout.parseTraced layout.text with
        | .ok again => return (.verdict (decide (again = layout)), session)
        | .error fault => return (.refused fault, session)
  | .run name direction window =>
      session.withLayout name fun layout =>
        pure (session.settle window
          (layout.convert direction (window.inside session.buffer)))
  | .convert format direction window => do
      let conversion ←
        convertTraced direction format (window.inside session.buffer)
      return session.settle window conversion
  | .copy format direction window => do
      let conversion ←
        convertTraced direction format (window.inside session.buffer)
      match conversion.result with
      | .ok content => return (.bytes content, session)
      | .error fault => return (.refused fault, session)
  | .append bytes =>
      let longer := session.buffer ++ bytes
      pure (.length longer.length, { session with buffer := longer })
  | .truncate length =>
      let shorter := session.buffer.take length
      pure (.length shorter.length, { session with buffer := shorter })

/-- Carry out several commands, with the reply to each and the session it
leaves. -/
def performAll (session : Session) :
    List Command → Traced (List (Reply × Session))
  | [] => pure []
  | command :: commands => do
      let first ← session.perform command
      let later ← first.2.performAll commands
      return first :: later

end Session

end WireOrder
