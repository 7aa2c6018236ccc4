import Polymarket.Json

/-! A socket as the code that plans its frames sees it. -/

set_option autoImplicit false

namespace Polymarket.WebSocket

/-- Closed, or open with the outcome of sending each frame. -/
inductive Connection where
  | closed
  | open (send : Json → Bool)

/-- An open socket on which every send succeeds. -/
def Connection.live : Connection := .open fun _ => true

/-- Send frames until one fails: the frames that reached the socket, and
whether all of them did. -/
def sendAll (send : Json → Bool) : List Json → List Json × Bool
  | [] => ([], true)
  | message :: rest =>
      if send message then
        let sent := sendAll send rest
        (message :: sent.1, sent.2)
      else ([], false)

@[simp] theorem sendAll_succeeds (messages : List Json) :
    sendAll (fun _ => true) messages = (messages, true) := by
  induction messages with
  | nil => rfl
  | cons message rest ih => simp [sendAll, ih]

end Polymarket.WebSocket
