import Transport.Token

/-
  Transport.Send.Dispatch — where each medium's send worker sends an item it popped.

  After `send_que.Pop()` returns `(frame, token)`, the three `send_backend`s decide:

      SerialPortTransport     token && token->transport<P>() != this  →  "invalid token received"
                              P::frame_size(frame) == 0               →  continue
                              otherwise the frame goes to `tty_id` through the write loop
      DatagramTransport       !P::frame_size(frame)                   →  continue
                              token = dynamic_cast<DatagramTransportToken *>(second.get())
                              sendto(..., token ? &token->addr : &connect_addr,
                                          token ? token->addr_len : sizeof(connect_addr))
      UnixDatagramTransport   the same, with `UnixDatagramTransportToken` and `sockaddr_un`

  `transport<P>()` is `dynamic_cast<BaseTransport<P>*>(transport_)`: it is `this` exactly when the
  token's `transport_` is this transport, so the serial test drops every token of another
  transport.  The two datagram workers share one body, with the medium's own `dynamic_cast`; that
  body reads the token's type and address but never its `transport_`.  So a datagram worker sends
  an item carrying another transport's token to that token's address, and a Unix datagram worker
  sends an item carrying a UDP token to its own default peer.

  Main results:
    * `addressedSendTarget_of_ne_nil` — the datagram body sends every non-empty frame, to the
      token's address when the medium's cast accepts the token and to `connect_addr` otherwise.
    * `datagram_sends_foreign_tokens` — neither datagram worker drops a foreign token's item.
-/

namespace Transport

/-! ## §1. Destinations and senders. -/

/-- Where a send worker hands a frame's bytes: the serial line, or `sendto` with an
`(addr, addr_len)` pair. -/
inductive Dest where
  | line
  | inet (addr : InetAddr)
  | unix (addr : UnixAddr)
  deriving DecidableEq

/-- A transport as its send worker reads it: `this`, and `connect_addr` on the datagram media. -/
inductive Sender where
  | serialPort (self : Nat)
  | datagram (self : Nat) (connectAddr : InetAddr)
  | unixDatagram (self : Nat) (connectAddr : UnixAddr)
  deriving DecidableEq

/-- `this`. -/
def Sender.self : Sender → Nat
  | .serialPort s | .datagram s _ | .unixDatagram s _ => s

/-- `dynamic_cast<DatagramTransportToken *>`: the token's `addr` and `addr_len`, when it is one. -/
def Token.asDatagram : Token → Option InetAddr
  | .datagram _ a => some a
  | _ => none

/-- `dynamic_cast<UnixDatagramTransportToken *>`: the token's `addr` and `addr_len`, when it is
one. -/
def Token.asUnixDatagram : Token → Option UnixAddr
  | .unixDatagram _ a => some a
  | _ => none

/-! ## §2. `send_backend`, from a popped item to the destination of its bytes. -/

/-- `SerialPortTransport::send_backend` after `Pop`: a token whose `transport<P>()` is not `this`
drops the item, an empty frame is skipped (`none` for both `continue`s), and any other frame
goes to the line. -/
def serialSendTarget (self : Nat) (item : List UInt8 × Option Token) : Option Dest :=
  if item.2.any (·.transport != self) then none
  else if item.1.length = 0 then none
  else some .line

/-- The body of the two datagram `send_backend`s after `Pop`: an empty frame is skipped;
otherwise `sendto` gets the token's address when `cast`, the medium's `dynamic_cast`, accepts the
token, and `connect` otherwise. -/
def addressedSendTarget (cast : Token → Option Dest) (connect : Dest)
    (item : List UInt8 × Option Token) : Option Dest :=
  if item.1.length = 0 then none
  else some ((item.2.bind cast).getD connect)

/-- The datagram body sends every non-empty frame: to the token's address when `cast` accepts
the token, to `connect` otherwise. -/
theorem addressedSendTarget_of_ne_nil (cast : Token → Option Dest) (connect : Dest)
    {item : List UInt8 × Option Token} (h : item.1 ≠ []) :
    addressedSendTarget cast connect item = some ((item.2.bind cast).getD connect) := by
  simp [addressedSendTarget, h]

/-- `DatagramTransport::send_backend`: `connect_addr` goes with `sizeof(connect_addr)`, 16. -/
def datagramSendTarget (connectAddr : InetAddr) : List UInt8 × Option Token → Option Dest :=
  addressedSendTarget (fun t => t.asDatagram.map .inet)
    (.inet { connectAddr with len := 16, len_le := le_rfl })

/-- `UnixDatagramTransport::send_backend`: `connect_addr` goes with `sizeof(connect_addr)`, 110. -/
def unixDatagramSendTarget (connectAddr : UnixAddr) : List UInt8 × Option Token → Option Dest :=
  addressedSendTarget (fun t => t.asUnixDatagram.map .unix)
    (.unix { connectAddr with len := 110, len_le := le_rfl })

/-- The send worker of each medium. -/
def Sender.sendTarget : Sender → List UInt8 × Option Token → Option Dest
  | .serialPort self => serialSendTarget self
  | .datagram _ c => datagramSendTarget c
  | .unixDatagram _ c => unixDatagramSendTarget c

/-! ## §3. What the three workers do. -/

/-- The peer an item without a token is meant for: the serial line, or `connect_addr`. -/
def Sender.defaultPeer : Sender → Dest
  | .serialPort _ => .line
  | .datagram _ c => .inet { c with len := 16, len_le := le_rfl }
  | .unixDatagram _ c => .unix { c with len := 110, len_le := le_rfl }

@[simp] theorem Sender.sendTarget_empty (T : Sender) (token : Option Token) :
    T.sendTarget ([], token) = none := by
  cases T <;> simp [sendTarget, serialSendTarget, datagramSendTarget, unixDatagramSendTarget,
    addressedSendTarget]

/-- **Foreign tokens reach the medium.**  Whatever transports `self` and `other` are, a datagram
transport sends an item carrying a datagram token of `other` to that token's address, and a Unix
datagram transport sends it to its own default peer: neither drops it. -/
theorem datagram_sends_foreign_tokens :
    ∀ (self other : Nat) (c a : InetAddr) (u : UnixAddr),
      (Sender.datagram self c).sendTarget ([1], some (.datagram other a)) = some (.inet a) ∧
      (Sender.unixDatagram self u).sendTarget ([1], some (.datagram other a)) =
        some (Sender.unixDatagram self u).defaultPeer := by
  intro self other c a u
  exact ⟨rfl, rfl⟩

end Transport
