import SingBox.FakeIPAddr

/-!
# The FakeIP store

`dns/transport/fakeip/store.go` over `memory.go`. The store hands out addresses of
its two ranges to domains: it keeps one cursor per family, advances it with `Next`,
and wraps it to the range's third address when the successor is the broadcast address
or leaves the range. `MemoryStorage` keeps the address map and one domain map per
family; storing an address removes the domain it had before from the domain map of the
address's family.

The store is a state machine: `StoreOp` names what callers do with it, `Store.step`
does one of them and `Store.run` a sequence.
-/

namespace SingBox

structure MemoryStorage where
  addressCache : Addr → Option String
  domainCache4 : String → Option Addr
  domainCache6 : String → Option Addr

namespace MemoryStorage

/-- `NewMemoryStorage`, and the maps `FakeIPReset` installs. -/
def empty : MemoryStorage :=
  ⟨fun _ => none, fun _ => none, fun _ => none⟩

def FakeIPStore (s : MemoryStorage) (address : Addr) (domain : String) : MemoryStorage :=
  let s :=
    match s.addressCache address with
    | some oldDomain =>
      if address.Is4 then { s with domainCache4 := Function.update s.domainCache4 oldDomain none }
      else { s with domainCache6 := Function.update s.domainCache6 oldDomain none }
    | none => s
  let s := { s with addressCache := Function.update s.addressCache address (some domain) }
  if address.Is4 then { s with domainCache4 := Function.update s.domainCache4 domain (some address) }
  else { s with domainCache6 := Function.update s.domainCache6 domain (some address) }

def FakeIPLoad (s : MemoryStorage) (address : Addr) : Option String :=
  s.addressCache address

def FakeIPLoadDomain (s : MemoryStorage) (domain : String) (isIPv6 : Bool) : Option Addr :=
  if !isIPv6 then s.domainCache4 domain else s.domainCache6 domain

def FakeIPReset (_ : MemoryStorage) : MemoryStorage :=
  empty

end MemoryStorage

/-- `adapter.FakeIPMetadata`: the ranges and cursors a store saves. -/
structure FakeIPMetadata where
  inet4Range : Option Prefix
  inet6Range : Option Prefix
  inet4Current : Addr
  inet6Current : Addr

/-- `Store` over `MemoryStorage`; an unset range is `none`. -/
structure Store where
  inet4Range : Option Prefix
  inet6Range : Option Prefix
  inet4Last : Addr
  inet6Last : Addr
  storage : MemoryStorage
  inet4Current : Addr
  inet6Current : Addr

def NewStore (inet4Range inet6Range : Option Prefix) : Store :=
  { inet4Range, inet6Range,
    inet4Last := (inet4Range.map broadcastAddress).getD .zero,
    inet6Last := (inet6Range.map broadcastAddress).getD .zero,
    storage := MemoryStorage.empty, inet4Current := .zero, inet6Current := .zero }

/-- The cursor step of `Store.Create` for one family: the successor of `current`, or
the range's third address when the successor is `last` or lies outside the range. -/
def nextAddress (range : Option Prefix) (last current : Addr) : Addr :=
  let nextAddress := current.Next
  if nextAddress = last ∨ (range.map (·.Contains nextAddress)).getD false = false then
    ((range.map Prefix.ip).getD .zero).Next.Next
  else nextAddress

namespace Store

/-- The start of `Store.Start` when no metadata of the same ranges is restored: each
cursor at the second address of its range, and the storage cleared. -/
def startFresh (s : Store) (storage : MemoryStorage) : Store :=
  { s with
    inet4Current := (s.inet4Range.map (·.ip.Next)).getD s.inet4Current
    inet6Current := (s.inet6Range.map (·.ip.Next)).getD s.inet6Current
    storage := storage.FakeIPReset }

/-- `Store.Start` with a storage and the metadata it holds; `MemoryStorage` holds none. -/
def Start (s : Store) (storage : MemoryStorage) (metadata : Option FakeIPMetadata) : Store :=
  match metadata with
  | some metadata =>
    if metadata.inet4Range = s.inet4Range ∧ metadata.inet6Range = s.inet6Range then
      { s with
        inet4Current := metadata.inet4Current
        inet6Current := metadata.inet6Current
        storage := storage }
    else s.startFresh storage
  | none => s.startFresh storage

/-- `Store.Close`: the metadata it saves. -/
def Close (s : Store) : FakeIPMetadata :=
  ⟨s.inet4Range, s.inet6Range, s.inet4Current, s.inet6Current⟩

/-- `Store.Create`; an error leaves the store as it was. -/
def Create (s : Store) (domain : String) (isIPv6 : Bool) : Except String (Addr × Store) :=
  match s.storage.FakeIPLoadDomain domain isIPv6 with
  | some address => .ok (address, s)
  | none =>
    if !isIPv6 then
      if !s.inet4Current.IsValid then .error "missing IPv4 fakeip address range"
      else
        let address := nextAddress s.inet4Range s.inet4Last s.inet4Current
        .ok (address,
          { s with
            inet4Current := address
            storage := s.storage.FakeIPStore address domain })
    else
      if !s.inet6Current.IsValid then .error "missing IPv6 fakeip address range"
      else
        let address := nextAddress s.inet6Range s.inet6Last s.inet6Current
        .ok (address,
          { s with
            inet6Current := address
            storage := s.storage.FakeIPStore address domain })

def Lookup (s : Store) (address : Addr) : Option String :=
  s.storage.FakeIPLoad address

def Reset (s : Store) : Store :=
  { s with storage := s.storage.FakeIPReset }

end Store

/-- What callers do with a started store. -/
inductive StoreOp where
  | create (domain : String) (isIPv6 : Bool)
  | lookup (address : Addr)
  | reset

namespace Store

def step (s : Store) : StoreOp → Store
  | .create domain isIPv6 =>
    match s.Create domain isIPv6 with
    | .ok (_, s') => s'
    | .error _ => s
  | .lookup _ => s
  | .reset => s.Reset

def run (s : Store) (ops : List StoreOp) : Store :=
  ops.foldl step s

end Store

end SingBox
