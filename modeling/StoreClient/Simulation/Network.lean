import StoreClient.Pool
import StoreClient.Simulation.Line

/-!
# Simulated networks

A network has servers at addresses, and a byte stream for every connection that was opened to one of
them. A server acts at once on what it is sent; what it sends back waits to be read. One script of
replies serves all connections to scripted servers, in the order in which their requests come in.
-/

namespace StoreClient.Simulation

/-- What there is at an address. -/
inductive Server where
  /-- It refuses connections. -/
  | refusing
  /-- It neither accepts nor refuses them. -/
  | hanging
  /-- It answers every request as if it were a ping. -/
  | pong
  /-- It accepts connections and never answers. -/
  | silent
  /-- It ends every byte stream at once, and takes what is sent to it. -/
  | ending
  /-- It answers by the script. -/
  | scripted
  deriving DecidableEq, Repr

/-- The reply to one request. -/
structure Reply where
  send : Bytes := []
  /-- Whether the byte stream ends after it. Later requests on it are ignored. -/
  close : Bool := false
  deriving DecidableEq, Repr

/-- The byte stream of a connection, as its server sees it. -/
structure Socket where
  server : Server
  /-- What has come in of the request under way. -/
  decoder : Decoder := .ofMaxLength Frame.defaultMaxLength
  /-- What has been sent and not been read. -/
  outbox : Bytes := []
  /-- Whether nothing more will be sent. -/
  ended : Bool := false
  deriving DecidableEq, Repr

/-- A network. -/
structure Network where
  servers : List (Address × Server)
  /-- The replies of the scripted servers that have not been given. Behind them, byte streams end.
  -/
  replies : List Reply := []
  /-- The requests that scripted servers have taken. -/
  seen : List Frame := []
  /-- The byte streams by the numbers of their connections. -/
  sockets : List (Nat × Socket) := []
  deriving DecidableEq, Repr

namespace Network

/-! ### Opening byte streams -/

/-- Why nothing can be reached where there is no server. -/
def unreachable : String := "Network is unreachable (os error 101)"

/-- Why a server that refuses connections cannot be reached. -/
def refused : String := "Connection refused (os error 111)"

/-- What comes of opening a byte stream. -/
inductive Dialled where
  | opened (network : Network)
  | failed (cause : String)
  /-- Nothing ever comes of it. -/
  | pending

/-- The byte stream to a server for a connection. -/
def socketTo (server : Server) : Socket := { server, ended := server = .ending }

/-- Opens a byte stream to an address for the connection of a number. -/
def dial (n : Network) (connection : Nat) (address : Address) : Dialled :=
  match n.servers.lookup address with
  | none => .failed unreachable
  | some .refusing => .failed refused
  | some .hanging => .pending
  | some server => .opened { n with sockets := (connection, socketTo server) :: n.sockets }

/-! ### Using byte streams -/

/-- Takes a request from a socket: the network and the socket after it. -/
def serve (n : Network) (s : Socket) (request : Frame) : Network × Socket :=
  if s.ended then (n, s)
  else
    match s.server with
    | .pong =>
      (n, { s with outbox := s.outbox ++ Frame.bytes { tag := Tag.pingResp.byte } })
    | .scripted =>
      let n := { n with seen := n.seen ++ [request] }
      match n.replies with
      | [] => (n, { s with ended := true })
      | reply :: replies =>
        ({ n with replies }, { s with outbox := s.outbox ++ reply.send, ended := reply.close })
    | _ => (n, s)

/-- Takes requests in turn. -/
def serveAll (n : Network) (s : Socket) : List Frame → Network × Socket
  | [] => (n, s)
  | request :: requests =>
    let (n, s) := n.serve s request
    serveAll n s requests

/-- The network with the socket of a connection set. -/
def setSocket (n : Network) (connection : Nat) (socket : Socket) : Network :=
  { n with
    sockets := n.sockets.map fun entry =>
      if entry.1 = connection then (connection, socket) else entry }

/-- Takes what a client writes: all of it. -/
def accept (n : Network) (connection : Nat) (s : Socket) (bytes : Bytes) : Network :=
  let fed := s.decoder.feed bytes
  let (n, s) := n.serveAll { s with decoder := fed.decoder } fed.frames
  n.setSocket connection s

/-- What comes of something asked of the byte stream of a connection. A stream without socket is at
its end. -/
def ask (n : Network) (connection capacity : Nat) (await : Await) : Option (Completion × Network) :=
  match n.sockets.lookup connection, await with
  | some s, .write bytes => some (.wrote bytes.length, n.accept connection s bytes)
  | none, .write bytes => some (.wrote bytes.length, n)
  | _, .flush => some (.flushed, n)
  | none, .read => some (.received [], n)
  | some s, .read =>
    if s.outbox = [] ∧ !s.ended then none
    else
      some (.received (s.outbox.take capacity),
        n.setSocket connection { s with outbox := s.outbox.drop capacity })

/-- A bound on the number of reads that give something, whatever is written before: what has been
sent and everything that servers may still send in answer to one request. -/
def reads (n : Network) : Nat :=
  (n.sockets.map fun entry => entry.2.outbox.length).foldl (· + ·) 0
    + (n.replies.map fun reply => reply.send.length).foldl (· + ·) 0
    + Frame.size { tag := Tag.pingResp.byte }

end Network

/-- The byte stream of one connection in a network. -/
structure NetworkLine where
  network : Network
  connection : Nat
  deriving DecidableEq, Repr

instance : Line NetworkLine where
  ask line capacity await patience :=
    match line.network.ask line.connection capacity await with
    | some (completion, network) => .given completion patience { line with network }
    | none => .overdue line
  reads line := line.network.reads

end StoreClient.Simulation
