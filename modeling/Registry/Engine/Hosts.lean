import Registry.DatabaseUrl

/-!
# Hosts of a server

The query of the address of a server can name several hosts: keys that are repeated, each host with
its port after a colon, or one key with the hosts between commas and another with their ports.
`Hosts.check` refuses what mixes both, ports that are no numbers, and hosts and ports that do not
match in number.
-/

namespace Registry

/-- Why the hosts of an address are refused. -/
inductive HostsError
  | unfit
  | manyColons
deriving DecidableEq

namespace Hosts

/-- The separator of hosts, and that of a host from its port. -/
def comma : CodePoint := CodePoint.ofChar ','

/-- The separator of a host from its port. -/
def colon : CodePoint := CodePoint.ofChar ':'

/-- The parts of a host: its name, a port if there is one, and what follows more colons. -/
def parts (host : Text) : List Text := Text.splitOn colon host

/-- The host and the port of a text that has nothing else but letters, digits, hyphens and points
before the colon, and digits after it. -/
def single? (host : Text) : Option (Option Text) :=
  match parts host with
  | [name, port] =>
    if name.all (fun c => c.isAsciiAlphanumeric || c.is '-' || c.is '.')
        && port.all (·.decimalValue?.isSome) then
      some (if port.isEmpty then none else some port)
    else none
  | _ => none

/-- The hosts of a query: how many there are, and their ports if they have them behind colons. -/
def ofQuery (hosts : Option (List Text)) :
    Except HostsError (Option Nat × Option (List (Option Text))) :=
  match hosts with
  | none => .ok (none, none)
  | some [text] =>
    match Text.splitOn comma text with
    | [host] => .ok (some 1, (single? host).map fun port => [port])
    | hosts => .ok (some hosts.length, none)
  | some hosts =>
    if hosts.all fun h => 2 < (parts h).length then .error .manyColons
    else .ok (some hosts.length, some (hosts.map fun h => (parts h)[1]?))

def portsOf : List Text → List (Option Text)
  | [text] => (Text.splitOn comma text).map some
  | ports => ports.map some

/-- A port is empty or a number. -/
def isPort (port : Option Text) : Bool :=
  match port with
  | some t => t.isEmpty || (Text.readInteger .decimal t).isOk
  | none => true

def check (hosts ports : Option (List Text)) : Except HostsError Unit := do
  let (count, behindColons) ← ofQuery hosts
  let ports ←
    match behindColons, ports with
    | some _, some _ => throw .unfit
    | some ports, none => pure ports
    | none, some ports => pure (portsOf ports)
    | none, none => pure []
  if !ports.all isPort then throw .unfit
  let fits : Bool :=
    match count with
    | none => ports.length ≤ 1
    | some n => ports.isEmpty || n == ports.length || (n ≤ 1 && ports.length ≤ 1)
  if fits then return () else throw .unfit

end Hosts

end Registry
