import DmaOwnership.Text.Url
/-!
# Broker addresses

Before a script runs, a broker address given on the command line is checked. The
address is completed first: one starting with `:` gets the host `127.0.0.1` in front,
and one without `://` gets `tcp://` in front. An address that is no URL leaves no
broker to connect to; a URL whose scheme is not one of `ws`, `wss`, `tcp`, `unix`,
`ssl`, `tls` or `tcps` names an unknown protocol. Both are errors before any
connection is tried. Messages name the address as it was given.
-/

namespace DmaOwnership.Cli

/-- The address completed with a default host and scheme. -/
def completeBroker (b : String) : String :=
  let b := if b.startsWith ":" then "127.0.0.1" ++ b else b
  if (b.splitOn "://").length > 1 then b else "tcp://" ++ b

/-- The schemes a broker connection can use. -/
def brokerSchemes : List String := ["ws", "wss", "tcp", "unix", "ssl", "tls", "tcps"]

/-- Why no connection to the broker can be made, or nothing if one could be tried. -/
def brokerError (b : String) : Option String :=
  match Text.Url.scheme? (completeBroker b) with
  | none => some ("connect to " ++ b ++ ": No servers defined to connect to")
  | some s =>
    if brokerSchemes.contains s then none
    else some ("connect to " ++ b ++ ": Network Error : Unknown protocol")

end DmaOwnership.Cli
