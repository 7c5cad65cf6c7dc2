import SchemaBinder.FileTree.Access
import SchemaBinder.Network.Basic
/-!
# Access to the network

What the program does with the network: it asks for the text at a URL, and may give up after a time.

A program that is written over `NetworkAccess` runs with any network that it is given to read, as
well as with the one of a machine.  On a file tree alone there is no network.
-/

namespace SchemaBinder

/-- Access to the network in a monad. -/
class NetworkAccess (m : Type → Type) where
  /-- The answer to the request for a URL. -/
  request : String → m Reply
  /-- The answer that is there within a number of seconds. -/
  requestWithin : UInt64 → String → m (Option Reply)

variable {m : Type → Type} [Monad m]

/-- Access to a network that is given. -/
instance : NetworkAccess (ReaderT Network m) where
  request url network := pure (network.reply url)
  requestWithin seconds url network := pure (network.replyWithin seconds url)

/-- Access to files, with a network beside them. -/
instance [FileAccess m] : FileAccess (ReaderT Network m) where
  readText path _ := FileAccess.readText path
  writeText path text _ := FileAccess.writeText path text
  makeDirectories path _ := FileAccess.makeDirectories path

/-- A file tree alone is offline. -/
instance : NetworkAccess (StateT FileTree m) where
  request url := pure (Network.offline.reply url)
  requestWithin seconds url := pure (Network.offline.replyWithin seconds url)

end SchemaBinder
