import Sfu.Session.Endpoint

/-! The UDP demultiplexer at the head of the server's inbound pipeline (RFC 7983): the
first-byte matchers, and the decoder that drops SRTP and SRTCP datagrams (their dispatch
to a media pipeline is still a `TODO` in the source) and passes every other datagram on
to the next handler, as a step on what its context has passed on. -/
namespace Sfu

/-- retty's `TaggedBytesMut`, with the fields the pipeline carries: the transport a datagram
came on and its bytes. -/
structure TaggedBytesMut where
  transport : TransportContext
  message : List UInt8
  deriving DecidableEq, Repr

/-- The part of retty's `InboundHandlerContext` the decoder uses: the datagrams it has
passed on to the next inbound handler, in order. -/
structure InboundHandlerContext where
  fired : List TaggedBytesMut
  deriving DecidableEq, Repr

/-- `ctx.fire_read(msg)`. -/
def InboundHandlerContext.fireRead (ctx : InboundHandlerContext) (msg : TaggedBytesMut) :
    InboundHandlerContext :=
  ⟨ctx.fired ++ [msg]⟩

/-- `match_all`. -/
def matchAll (_b : List UInt8) : Bool := true

/-- `match_range`: a non-empty buffer whose first byte is in `[lower, upper]`. -/
def matchRange (lower upper : UInt8) (buf : List UInt8) : Bool :=
  match buf with
  | [] => false
  | b :: _ => b ≥ lower && b ≤ upper

def matchDtls (b : List UInt8) : Bool := matchRange 20 63 b

def matchSrtpOrSrtcp (b : List UInt8) : Bool := matchRange 128 191 b

/-- `is_rtcp`: at least four bytes, the second an RTCP packet type. -/
def isRtcp (buf : List UInt8) : Bool :=
  if buf.length < 4 then false
  else
    let rtcpPacketType := buf.getD 1 0
    192 ≤ rtcpPacketType && rtcpPacketType ≤ 223

def matchSrtp (buf : List UInt8) : Bool := matchSrtpOrSrtcp buf && !isRtcp buf

def matchSrtcp (buf : List UInt8) : Bool := matchSrtpOrSrtcp buf && isRtcp buf

/-- `UDPDemuxerDecoder::read`. -/
def UDPDemuxerDecoder.read (ctx : InboundHandlerContext) (msg : TaggedBytesMut) : InboundHandlerContext :=
  if matchSrtpOrSrtcp msg.message then ctx
  else ctx.fireRead msg

/-- `Handler::id`. -/
def UDPDemuxer.id : String := "UDPDemuxer Handler"

end Sfu
