import FileShare.Service.Server

/-!
# A client meets a server

A client and a server on one machine share the file system, which the server keeps for both, and are
joined by a pair of sockets.
`Meeting.run` lets both do what is due, in turns, and carries bytes between their sockets, until the
client is finished. Then the client goes away, and the server sees it go.
-/

namespace FileShare

/-- A client and the server that serves it. -/
structure Meeting where
  client : Connection Socket
  server : Server
  /-- The number of the client. -/
  number : Nat

namespace Meeting

/-- Bytes arrive at a socket, and perhaps the news that the peer is gone. -/
def arrive (data : ByteArray) (isLast : Bool) (socket : Socket) : Socket :=
  let socket := socket.peerSend data
  if isLast then socket.peerClose else socket

/-- Do something with the client, and let the server react to what the client sends. -/
def clientStep (m : Meeting) (step : Connection Socket → Connection Socket) : Meeting :=
  let (data, client) := (step (m.client.withFiles m.server.store.fs)).readBytes
  let server := m.server.withFiles client.world.store.fs
  let server := server.onClient m.number (·.react (arrive data client.isOver))
  { m with client, server }

/-- Do something with the server, and let the client see what the server sends. -/
def serverStep (m : Meeting) (step : Connection Socket → Connection Socket) : Meeting :=
  let ((data, isOver), server) := m.server.withClient m.number fun client =>
    let (data, client) := (step client).readBytes
    ((data, client.isOver), client)
  { m with client := m.client.onTransport (arrive data isOver), server }

/-- Let both sides go on, for so many rounds at most. Time passes when there is nothing to do. -/
def rounds (m : Meeting) : Nat → Meeting
  | 0 => m
  | bound + 1 =>
    let m := m.clientStep Connection.turn
    if Client.isFinished m.client then
      m
    else
      let m := m.serverStep id
      if m.client.socket.isReadable then
        m.rounds bound
      else
        let m := (m.clientStep Connection.tick).serverStep Connection.tick
        if m.client.socket.isReadable then m.rounds bound else m

/-- The most rounds that a meeting takes. -/
def roundBound : Nat := 0x1000000

/-- Run the exchange of a client with a server. -/
def run (client : Connection Socket) (server : Server) : Outcome × Server :=
  let (number, server) := server.accept
  let m := (⟨client, server, number⟩ : Meeting).rounds roundBound
  (Client.outcome m.client, (m.clientStep Connection.hangUp).server)

end Meeting

end FileShare
