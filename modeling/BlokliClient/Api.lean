import BlokliClient.Library.Hex
import BlokliClient.Wire
import Mathlib.Data.List.DropRight

/-!
# The records and selectors of the client's API

What Blokli indexes, as the client returns it, and the selectors of its
operations. Records hold text as Blokli renders it; selectors hold raw bytes.
-/

namespace Blokli

/-- A byte array of fixed size. -/
structure Bytes (n : ℕ) where
  toList : List UInt8
  size : toList.length = n
  deriving DecidableEq

/-- `hex::encode`. -/
def Bytes.encodeHex {n : ℕ} (bytes : Bytes n) : Text := Hex.encodeHex bytes.toList

theorem Bytes.ext_toList {n : ℕ} {a b : Bytes n} (h : a.toList = b.toList) : a = b := by
  cases a
  cases b
  cases h
  rfl

abbrev ChainAddress := Bytes 20

abbrev ChannelId := Bytes 32

abbrev ServiceTypeId := Bytes 32

abbrev PacketKey := Bytes 32

abbrev KeyId := UInt32

inductive ChannelStatus
  | opened
  | pendingToClose
  | closed
  /-- A value sent by a newer Blokli. It cannot be sent to Blokli. -/
  | unknown
  deriving DecidableEq

/-- Payment channel indexed by Blokli. -/
structure Channel where
  balance : Text
  closureTime : Option Text
  concreteChannelId : Text
  destination : Int32
  epoch : Int32
  source : Int32
  status : ChannelStatus
  ticketIndex : Text
  deriving DecidableEq

/-- Account indexed by Blokli. -/
structure Account where
  chainKey : Text
  keyid : Int32
  multiAddresses : List Text
  packetKey : Text
  safeAddress : Option Text
  deriving DecidableEq

/-- Safe contract indexed by Blokli. -/
structure Safe where
  address : Text
  chainKey : Text
  owners : List Text
  moduleAddress : Text
  registeredNodes : List Text
  threshold : Option Text
  deriving DecidableEq

/-- Payment channel and the accounts of its endpoints. -/
structure OpenedChannelsGraphEntry where
  channel : Channel
  destination : Account
  source : Account
  cursor : Option Text
  deriving DecidableEq

/-- The winning probability is a binary floating point number. -/
structure TicketParameters where
  minTicketWinningProbability : Float
  ticketPrice : Text

/-! ### Services -/

/-- One node that offers one service type. -/
structure ServiceEntry where
  serviceType : Text
  node : Text
  safe : Text
  metadata : Text
  registeredAt : Text
  updatedAt : Text
  deriving DecidableEq

/-- Configuration of a service type. -/
structure ServiceTypeInfo where
  serviceType : Text
  owner : Option Text
  requirement : Option Text
  registrationBurn : Text
  updateBurn : Text
  deriving DecidableEq

/-- Registry-wide configuration. -/
structure ServiceRegistryConfig where
  typeRegistrationFee : Text
  nodeSafeRegistry : Text
  deriving DecidableEq

inductive ServiceUpdateKind
  | registered
  | updated
  | deregistered
  /-- A value sent by a newer Blokli. -/
  | unknown
  deriving DecidableEq

inductive ServiceTypeUpdateKind
  | registered
  | ownerChanged
  | requirementChanged
  | registrationBurnChanged
  | updateBurnChanged
  | registrationFeeChanged
  | registryPointerChanged
  /-- A value sent by a newer Blokli. -/
  | unknown
  deriving DecidableEq

/-- Change to one registry entry. -/
structure ServiceUpdate where
  kind : ServiceUpdateKind
  serviceType : Text
  node : Text
  entry : Option ServiceEntry
  deriving DecidableEq

/-- Change to a service type or to the registry-wide configuration. -/
structure ServiceTypeUpdate where
  kind : ServiceTypeUpdateKind
  serviceType : Option Text
  config : Option ServiceTypeInfo
  registryConfig : Option ServiceRegistryConfig
  deriving DecidableEq

/-- The printable ASCII characters other than the space. -/
def isAsciiGraphic (byte : UInt8) : Bool := 33 ≤ byte.toNat && byte.toNat ≤ 126

/-- `service_type_name`: the ASCII name of a service type whose id is such a name,
padded with zeros on the right. Printable ASCII is UTF-8. -/
def serviceTypeName (serviceType : ServiceTypeId) : Option Text :=
  let name := serviceType.toList.rdropWhile (· == 0)
  if name.isEmpty then none
  else if name.all isAsciiGraphic then some (name.map fun byte => Char.ofNat byte.toNat)
  else none

/-- Amounts of tokens, as a library parses, adds and renders them. -/
structure Balances where
  Amount : Type
  zero : Amount
  add : Amount → Amount → Amount
  parse : Text → Option Amount
  render : Amount → Text

/-! ### Selectors -/

inductive AccountSelector
  | keyId (id : KeyId)
  | address (address : ChainAddress)
  | packetKey (packetKey : PacketKey)
  | any
  deriving DecidableEq

inductive SafeSelector
  | safeAddress (address : ChainAddress)
  | owner (address : ChainAddress)
  | chainKey (address : ChainAddress)
  | registeredNode (address : ChainAddress)
  deriving DecidableEq

inductive RedeemedStatsSelector
  | safeAddress (address : ChainAddress)
  | nodeAddress (address : ChainAddress)
  | safeAndNodeAddress (safeAddress nodeAddress : ChainAddress)
  deriving DecidableEq

inductive ServiceSelector
  | serviceType (serviceType : ServiceTypeId)
  | node (node : ChainAddress)
  | serviceTypeAndNode (serviceType : ServiceTypeId) (node : ChainAddress)
  | any
  deriving DecidableEq

inductive ChannelFilter
  | channelId (id : ChannelId)
  | destinationKeyId (dst : KeyId)
  | sourceKeyId (src : KeyId)
  | sourceAndDestinationKeyIds (src dst : KeyId)
  deriving DecidableEq

/-- Selects channels by optional filter, status, and safe contract address. -/
structure ChannelSelector where
  filter : Option ChannelFilter := none
  status : Option ChannelStatus := none
  safeAddress : Option ChainAddress := none
  deriving DecidableEq

/-- `matches_all`. -/
def ChannelSelector.matchesAll (selector : ChannelSelector) : Bool :=
  selector.filter.isNone && selector.status.isNone && selector.safeAddress.isNone

end Blokli
