import Mathlib.Data.List.Basic

/-! The transceiver direction lattice. Its source file is not part of the repository
snapshot; the operations follow the spec's direction algebra and agree with every case
of the repository's own direction tests. -/
namespace Sfu

/-- Modelled from the spec: `RTCRtpTransceiverDirection` (Direction Algebra). -/
inductive RTCRtpTransceiverDirection
  | unspecified
  | sendrecv
  | sendonly
  | recvonly
  | inactive
  deriving DecidableEq, Repr

namespace RTCRtpTransceiverDirection

instance : ToString RTCRtpTransceiverDirection where
  toString
    | .sendrecv => "sendrecv"
    | .sendonly => "sendonly"
    | .recvonly => "recvonly"
    | .inactive => "inactive"
    | .unspecified => "Unspecified"

@[simp] theorem toString_sendrecv : toString sendrecv = "sendrecv" := rfl

/-- Modelled from the spec: `From<&str>`, case-sensitive, anything else is unspecified. -/
def fromStr (raw : String) : RTCRtpTransceiverDirection :=
  if raw = "sendrecv" then .sendrecv
  else if raw = "sendonly" then .sendonly
  else if raw = "recvonly" then .recvonly
  else if raw = "inactive" then .inactive
  else .unspecified

/-- Modelled from the spec: `from_send_recv`. -/
def fromSendRecv (send recv : Bool) : RTCRtpTransceiverDirection :=
  match send, recv with
  | true, true => .sendrecv
  | true, false => .sendonly
  | false, true => .recvonly
  | false, false => .inactive

/-- Modelled from the spec: `has_send`. -/
def hasSend : RTCRtpTransceiverDirection → Bool
  | .sendrecv | .sendonly => true
  | _ => false

/-- Modelled from the spec: `has_recv`. -/
def hasRecv : RTCRtpTransceiverDirection → Bool
  | .sendrecv | .recvonly => true
  | _ => false

/-- Modelled from the spec: `reverse` swaps the two one-way directions. -/
def reverse : RTCRtpTransceiverDirection → RTCRtpTransceiverDirection
  | .sendonly => .recvonly
  | .recvonly => .sendonly
  | d => d

/-- Modelled from the spec: `intersect`, the narrowest direction both sides support;
every pair without a common capability, `unspecified` included, is `inactive`. -/
def intersect (a b : RTCRtpTransceiverDirection) : RTCRtpTransceiverDirection :=
  fromSendRecv (a.hasSend && b.hasSend) (a.hasRecv && b.hasRecv)

@[simp] theorem reverse_reverse (d : RTCRtpTransceiverDirection) : d.reverse.reverse = d := by
  cases d <;> rfl

@[simp] theorem hasSend_fromSendRecv (send recv : Bool) : (fromSendRecv send recv).hasSend = send := by
  cases send <;> cases recv <;> rfl

@[simp] theorem hasRecv_fromSendRecv (send recv : Bool) : (fromSendRecv send recv).hasRecv = recv := by
  cases send <;> cases recv <;> rfl

/-- The intersection grants a capability exactly when both sides have it. -/
theorem hasSend_intersect (a b : RTCRtpTransceiverDirection) :
    (a.intersect b).hasSend = (a.hasSend && b.hasSend) := hasSend_fromSendRecv _ _

theorem hasRecv_intersect (a b : RTCRtpTransceiverDirection) :
    (a.intersect b).hasRecv = (a.hasRecv && b.hasRecv) := hasRecv_fromSendRecv _ _

/-- The printed name reads back, `Unspecified` included. -/
@[simp] theorem fromStr_toString (d : RTCRtpTransceiverDirection) : fromStr (toString d) = d := by
  cases d <;> decide

theorem toString_inj {a b : RTCRtpTransceiverDirection} : toString a = toString b ↔ a = b :=
  ⟨fun h => by simpa using congrArg fromStr h, congrArg _⟩

/-- A key that names a direction is that direction's printed name. -/
theorem toString_fromStr {raw : String} (h : fromStr raw ≠ .unspecified) : toString (fromStr raw) = raw := by
  unfold fromStr at *
  split_ifs at h ⊢ <;> simp_all <;> rfl

example : intersect .sendonly .recvonly = .inactive ∧ intersect .recvonly .sendrecv = .recvonly :=
  ⟨rfl, rfl⟩

end RTCRtpTransceiverDirection

end Sfu
