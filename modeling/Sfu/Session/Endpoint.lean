import Sfu.Description.Types

/-! The identity model: a session owns endpoints by endpoint id, an endpoint owns
transports by four-tuple. Shared `Rc` handles are allocations in a heap, named by index,
so `Rc::ptr_eq` is equality of indices. The endpoint and transport types live outside the
repository snapshot; `Session::add_endpoint` and `get_endpoint` are the source's. Over any
run of `add_endpoint` from a well-formed state the session map never changes, the heap only
grows, and every handle a call returns stays valid. -/
namespace Sfu

/-- Modelled from the spec: a transport context, the network path a packet came on. -/
structure TransportContext where
  localAddr : SocketAddr
  peerAddr : SocketAddr
  protocol : String
  deriving DecidableEq, Repr

/-- Modelled from the spec: a four-tuple: local address, remote address, protocol. -/
structure FourTuple where
  localAddr : SocketAddr
  peerAddr : SocketAddr
  protocol : String
  deriving DecidableEq, Repr

/-- Modelled from the spec: `transport_context.into()`. -/
def FourTuple.ofTransportContext (tc : TransportContext) : FourTuple :=
  ⟨tc.localAddr, tc.peerAddr, tc.protocol⟩

/-- Modelled from the spec: a candidate, through the endpoint id it carries. -/
structure Candidate where
  endpointId : String
  deriving DecidableEq, Repr

/-- Modelled from the spec: an endpoint and the transports it owns, by four-tuple. -/
structure Endpoint where
  endpointId : String
  transports : List (FourTuple × Nat)
  deriving DecidableEq, Repr

/-- Modelled from the spec: a transport, its endpoint held by a weak reference. -/
structure Transport where
  fourTuple : FourTuple
  endpoint : Nat
  candidate : Candidate
  deriving DecidableEq, Repr

/-- The `Rc<Endpoint>` and `Rc<Transport>` allocations, an `Rc` being its index. -/
structure Heap where
  endpoints : List Endpoint
  transports : List Transport
  deriving DecidableEq, Repr

def Heap.empty : Heap := ⟨[], []⟩

def Heap.allocEndpoint (heap : Heap) (e : Endpoint) : Heap × Nat :=
  ({ heap with endpoints := heap.endpoints ++ [e] }, heap.endpoints.length)

def Heap.allocTransport (heap : Heap) (t : Transport) : Heap × Nat :=
  ({ heap with transports := heap.transports ++ [t] }, heap.transports.length)

/-- Modelled from the spec: `Endpoint::get_transport`. -/
def Endpoint.getTransport (e : Endpoint) (fourTuple : FourTuple) : Option Nat :=
  e.transports.lookup fourTuple

/-- Modelled from the spec: `Endpoint::add_transport`, a map insert under the four-tuple,
through the endpoint's interior mutability. -/
def Heap.addTransport (heap : Heap) (endpoint : Nat) (fourTuple : FourTuple) (transport : Nat) : Heap :=
  let insert := fun (e : Endpoint) =>
    { e with transports := (fourTuple, transport) :: e.transports.filter (·.1 ≠ fourTuple) }
  { heap with endpoints := heap.endpoints.modify insert endpoint }

structure Session where
  sessionId : UInt64
  localAddr : SocketAddr
  certificates : List RTCCertificate
  endpoints : List (String × Nat)
  deriving DecidableEq, Repr

def Session.new (sessionId : UInt64) (localAddr : SocketAddr) (certificates : List RTCCertificate) :
    Session :=
  ⟨sessionId, localAddr, certificates, []⟩

def Session.getEndpoint (self : Session) (endpointId : String) : Option Nat :=
  self.endpoints.lookup endpointId

/-- `Session::add_endpoint`: whether the endpoint existed, and the endpoint and transport
handles. A new endpoint gets its transport registered; nothing here writes the session's
own endpoint map. -/
def Session.addEndpoint (self : Session) (heap : Heap) (candidate : Candidate)
    (transportContext : TransportContext) : (Session × Heap) × Except Error (Bool × Nat × Nat) :=
  let endpointId := candidate.endpointId
  let fourTuple := FourTuple.ofTransportContext transportContext
  match self.getEndpoint endpointId with
  | some endpoint =>
    match (heap.endpoints[endpoint]?).bind (·.getTransport fourTuple) with
    | some transport => ((self, heap), .ok (true, endpoint, transport))
    | none =>
      let (heap, transport) := heap.allocTransport ⟨fourTuple, endpoint, candidate⟩
      ((self, heap.addTransport endpoint fourTuple transport), .ok (true, endpoint, transport))
  | none =>
    let (heap, endpoint) := heap.allocEndpoint ⟨endpointId, []⟩
    let (heap, transport) := heap.allocTransport ⟨fourTuple, endpoint, candidate⟩
    ((self, heap.addTransport endpoint fourTuple transport), .ok (false, endpoint, transport))

/-- A sequence of `add_endpoint` calls on one session, with their results in order. -/
def Session.addEndpoints : Session × Heap → List (Candidate × TransportContext) →
    (Session × Heap) × List (Except Error (Bool × Nat × Nat))
  | state, [] => (state, [])
  | (self, heap), (candidate, tc) :: rest =>
    let (state, result) := self.addEndpoint heap candidate tc
    let (state, results) := Session.addEndpoints state rest
    (state, result :: results)

/-- A call whose endpoint id the map does not hold allocates a fresh endpoint and a fresh
transport, answers "new", and leaves the session as it was. -/
theorem addEndpoint_unregistered {self : Session} (heap : Heap) (candidate : Candidate)
    (tc : TransportContext) (h : self.getEndpoint candidate.endpointId = none) :
    (self.addEndpoint heap candidate tc).1.1 = self ∧
      (self.addEndpoint heap candidate tc).2 = .ok (false, heap.endpoints.length, heap.transports.length) ∧
      (self.addEndpoint heap candidate tc).1.2.endpoints.length = heap.endpoints.length + 1 ∧
      (self.addEndpoint heap candidate tc).1.2.transports.length = heap.transports.length + 1 := by
  simp [Session.addEndpoint, h, Heap.allocEndpoint, Heap.allocTransport, Heap.addTransport]

/-- Every run of `add_endpoint` on a session whose map is empty, as `Session::new` leaves
it, keeps the map empty: each call answers "new" with the next fresh endpoint and
transport, whatever endpoint ids and four-tuples it is given. -/
theorem addEndpoints_all_new {self : Session} (hEmpty : self.endpoints = []) (heap : Heap)
    (calls : List (Candidate × TransportContext)) :
    (Session.addEndpoints (self, heap) calls).1.1 = self ∧
      (Session.addEndpoints (self, heap) calls).2 = (List.range calls.length).map
        (fun k => .ok (false, heap.endpoints.length + k, heap.transports.length + k)) := by
  induction calls generalizing heap with
  | nil => exact ⟨rfl, rfl⟩
  | cons call rest ih =>
    obtain ⟨candidate, tc⟩ := call
    obtain ⟨hSelf, hResult, hEndpoints, hTransports⟩ :=
      @addEndpoint_unregistered self heap candidate tc (by simp [Session.getEndpoint, hEmpty])
    rcases hCall : self.addEndpoint heap candidate tc with ⟨⟨self', heap'⟩, result⟩
    simp only [hCall] at hSelf hResult hEndpoints hTransports
    subst hSelf hResult
    obtain ⟨hSelf', hResults⟩ := ih heap'
    simp only [Session.addEndpoints, hCall, hSelf', hResults, true_and, List.length_cons,
      List.range_succ_eq_map, List.map_cons, List.map_map, hEndpoints, hTransports]
    simp [Function.comp_def, Nat.add_assoc, Nat.add_comm 1]

/-- Three calls on a new session, the first and the last with the same candidate and path. -/
theorem addEndpoints_all_new_three :
    (Session.new 1 ⟨"10.0.0.1", 5000⟩ []).endpoints = [] ∧
      (Session.addEndpoints (Session.new 1 ⟨"10.0.0.1", 5000⟩ [], Heap.empty)
          [(⟨"peer"⟩, ⟨⟨"10.0.0.1", 5000⟩, ⟨"192.0.2.7", 40000⟩, "udp"⟩),
           (⟨"other"⟩, ⟨⟨"10.0.0.1", 5000⟩, ⟨"192.0.2.8", 40000⟩, "udp"⟩),
           (⟨"peer"⟩, ⟨⟨"10.0.0.1", 5000⟩, ⟨"192.0.2.7", 40000⟩, "udp"⟩)]).1.1 =
        Session.new 1 ⟨"10.0.0.1", 5000⟩ [] ∧
      (Session.addEndpoints (Session.new 1 ⟨"10.0.0.1", 5000⟩ [], Heap.empty)
          [(⟨"peer"⟩, ⟨⟨"10.0.0.1", 5000⟩, ⟨"192.0.2.7", 40000⟩, "udp"⟩),
           (⟨"other"⟩, ⟨⟨"10.0.0.1", 5000⟩, ⟨"192.0.2.8", 40000⟩, "udp"⟩),
           (⟨"peer"⟩, ⟨⟨"10.0.0.1", 5000⟩, ⟨"192.0.2.7", 40000⟩, "udp"⟩)]).2 =
        (List.range 3).map (fun k => .ok (false, Heap.empty.endpoints.length + k, Heap.empty.transports.length + k)) :=
  ⟨rfl, addEndpoints_all_new rfl Heap.empty _⟩

/-- The same candidate and path twice on a new session: both calls answer "new", with two
different endpoints and transports, and the session still maps the endpoint id to none. -/
theorem addEndpoint_repeat_reported_new :
    (Session.addEndpoints (Session.new 1 ⟨"10.0.0.1", 5000⟩ [], Heap.empty)
        [(⟨"peer"⟩, ⟨⟨"10.0.0.1", 5000⟩, ⟨"192.0.2.7", 40000⟩, "udp"⟩),
         (⟨"peer"⟩, ⟨⟨"10.0.0.1", 5000⟩, ⟨"192.0.2.7", 40000⟩, "udp"⟩)]).2 =
        [.ok (false, 0, 0), .ok (false, 1, 1)] ∧
      (Session.addEndpoints (Session.new 1 ⟨"10.0.0.1", 5000⟩ [], Heap.empty)
        [(⟨"peer"⟩, ⟨⟨"10.0.0.1", 5000⟩, ⟨"192.0.2.7", 40000⟩, "udp"⟩),
         (⟨"peer"⟩, ⟨⟨"10.0.0.1", 5000⟩, ⟨"192.0.2.7", 40000⟩, "udp"⟩)]).1.1.getEndpoint "peer" = none :=
  ⟨rfl, rfl⟩

/-! ### The handles over a run of `add_endpoint` -/

/-- Each transport an endpoint owns is allocated, under the four-tuple it is filed under,
and points back to that endpoint. -/
def Heap.Owned (heap : Heap) : Prop :=
  ∀ (e : Nat) (ep : Endpoint), heap.endpoints[e]? = some ep → ∀ p ∈ ep.transports,
    ∃ tr : Transport, heap.transports[p.2]? = some tr ∧ tr.fourTuple = p.1 ∧ tr.endpoint = e

/-- What the handles of a session and its heap mean. -/
structure Session.WellFormed (session : Session) (heap : Heap) : Prop where
  /-- Each id the session map registers names an allocated endpoint of that id. -/
  registered : ∀ id e, (id, e) ∈ session.endpoints →
    ∃ ep : Endpoint, heap.endpoints[e]? = some ep ∧ ep.endpointId = id
  /-- Each endpoint's transports are its own. -/
  owned : heap.Owned

/-- One heap grows into another: transports are only appended, and each endpoint keeps
its id and every transport it serves a four-tuple with. -/
structure Heap.Grows (heap heap' : Heap) : Prop where
  transports : heap.transports <+: heap'.transports
  endpoints : ∀ (e : Nat) (ep : Endpoint), heap.endpoints[e]? = some ep →
    ∃ ep' : Endpoint, heap'.endpoints[e]? = some ep' ∧ ep'.endpointId = ep.endpointId ∧
      ∀ ft t, ep.getTransport ft = some t → ep'.getTransport ft = some t

/-- What a call hands back: the endpoint of the candidate's id, serving the packet's
four-tuple with the returned transport, and that transport filed under the four-tuple and
pointing back to the endpoint. -/
def Heap.Serves (heap : Heap) (candidate : Candidate) (tc : TransportContext) (e t : Nat) : Prop :=
  (∃ ep : Endpoint, heap.endpoints[e]? = some ep ∧ ep.endpointId = candidate.endpointId ∧
      ep.getTransport (.ofTransportContext tc) = some t) ∧
    ∃ tr : Transport, heap.transports[t]? = some tr ∧ tr.fourTuple = .ofTransportContext tc ∧
      tr.endpoint = e

theorem Heap.Grows.refl (heap : Heap) : heap.Grows heap :=
  ⟨List.prefix_refl _, fun _ ep h => ⟨ep, h, rfl, fun _ _ => id⟩⟩

theorem Heap.Grows.trans {h₁ h₂ h₃ : Heap} (h₁₂ : h₁.Grows h₂) (h₂₃ : h₂.Grows h₃) :
    h₁.Grows h₃ := by
  refine ⟨h₁₂.transports.trans h₂₃.transports, fun e ep hEp => ?_⟩
  obtain ⟨ep₂, hEp₂, hId₂, hT₂⟩ := h₁₂.endpoints e ep hEp
  obtain ⟨ep₃, hEp₃, hId₃, hT₃⟩ := h₂₃.endpoints e ep₂ hEp₂
  exact ⟨ep₃, hEp₃, hId₃.trans hId₂, fun ft t h => hT₃ ft t (hT₂ ft t h)⟩

/-- A transport handle stays valid as the heap grows. -/
theorem Heap.Grows.transport {heap heap' : Heap} (hg : heap.Grows heap') {t : Nat} {tr : Transport}
    (h : heap.transports[t]? = some tr) : heap'.transports[t]? = some tr := by
  obtain ⟨rest, hRest⟩ := hg.transports
  obtain ⟨hLt, -⟩ := List.getElem?_eq_some_iff.mp h
  rw [← hRest, List.getElem?_append_left hLt, h]

theorem Heap.Serves.grow {heap heap' : Heap} {c : Candidate} {tc : TransportContext} {e t : Nat}
    (h : heap.Serves c tc e t) (hg : heap.Grows heap') : heap'.Serves c tc e t := by
  obtain ⟨⟨ep, hEp, hId, hT⟩, tr, hTr, hFt, hE⟩ := h
  obtain ⟨ep', hEp', hId', hT'⟩ := hg.endpoints e ep hEp
  exact ⟨⟨ep', hEp', hId'.trans hId, hT' _ _ hT⟩, tr, hg.transport hTr, hFt, hE⟩

theorem Session.WellFormed.grow {self : Session} {heap heap' : Heap} (hWF : self.WellFormed heap)
    (hg : heap.Grows heap') (hOwned : heap'.Owned) : self.WellFormed heap' := by
  refine ⟨fun id e hMem => ?_, hOwned⟩
  obtain ⟨ep, hEp, hId⟩ := hWF.registered id e hMem
  obtain ⟨ep', hEp', hId', -⟩ := hg.endpoints e ep hEp
  exact ⟨ep', hEp', hId'.trans hId⟩

private theorem mem_of_lookup {α β : Type} [DecidableEq α] {l : List (α × β)} {k : α} {b : β}
    (h : l.lookup k = some b) : (k, b) ∈ l := by
  obtain ⟨l₁, l₂, rfl, -⟩ := List.lookup_eq_some_iff.mp h
  simp

/-- Allocating an endpoint with no transport grows the heap. -/
private theorem allocEndpoint_spec {heap : Heap} (hOwned : heap.Owned) (endpointId : String) :
    heap.Grows (heap.allocEndpoint ⟨endpointId, []⟩).1 ∧
      (heap.allocEndpoint ⟨endpointId, []⟩).1.Owned ∧
      (heap.allocEndpoint ⟨endpointId, []⟩).1.endpoints[heap.endpoints.length]? =
        some ⟨endpointId, []⟩ := by
  refine ⟨⟨List.prefix_refl _, fun e ep hEp => ⟨ep, ?_, rfl, fun _ _ => id⟩⟩, fun e ep hEp p hp => ?_,
    List.getElem?_concat_length _ _⟩
  · rw [Heap.allocEndpoint, List.getElem?_append_left (List.getElem?_eq_some_iff.mp hEp).1, hEp]
  · simp only [Heap.allocEndpoint, List.getElem?_append] at hEp
    split at hEp
    · exact hOwned e ep hEp p hp
    · obtain ⟨_, rfl⟩ := List.getElem?_eq_some_iff.mp hEp
      simp at hp

/-- Filing a fresh transport under a four-tuple an endpoint does not serve yet grows the
heap by that transport. -/
private theorem register_spec {heap heap' : Heap} {e : Nat} {ep : Endpoint} {ft : FourTuple}
    {c : Candidate}
    (hHeap : heap' = { heap with transports := heap.transports ++ [Transport.mk ft e c] }.addTransport e ft
      heap.transports.length)
    (hOwned : heap.Owned) (hEp : heap.endpoints[e]? = some ep) (hNew : ep.getTransport ft = none) :
    heap.Grows heap' ∧ heap'.Owned ∧
      heap'.endpoints[e]? = some { ep with transports := (ft, heap.transports.length) :: ep.transports } ∧
      heap'.transports[heap.transports.length]? = some (Transport.mk ft e c) := by
  have hFresh : ∀ p ∈ ep.transports, p.1 ≠ ft := fun p hp h => by
    simpa [h] using List.lookup_eq_none_iff.mp hNew p hp
  have hFilter : ep.transports.filter (·.1 ≠ ft) = ep.transports :=
    List.filter_eq_self.mpr fun p hp => decide_eq_true (hFresh p hp)
  have hTransports : heap'.transports = heap.transports ++ [Transport.mk ft e c] := by
    subst hHeap
    rfl
  have hAt : ∀ e', heap'.endpoints[e']? = if e = e' then
      some { ep with transports := (ft, heap.transports.length) :: ep.transports } else heap.endpoints[e']? := by
    intro e'
    rw [hHeap]
    unfold Heap.addTransport
    rw [List.getElem?_modify]
    split
    · subst e'
      rw [hEp, Option.map_eq_map, Option.map_some', hFilter]
    · next hNe => simp [hNe]
  have hNewTransport : heap'.transports[heap.transports.length]? = some (Transport.mk ft e c) := by
    rw [hTransports, List.getElem?_concat_length]
  have hGrows : heap.Grows heap' := by
    refine ⟨hTransports ▸ List.prefix_append _ _, fun e' ep' hEp' => ?_⟩
    rw [hAt]
    split
    · subst e'
      obtain rfl : ep' = ep := Option.some.inj (hEp'.symm.trans hEp)
      refine ⟨_, rfl, rfl, fun ft' t hT => ?_⟩
      have hNe : ft' ≠ ft := fun h => by rw [h, hNew] at hT; cases hT
      rw [Endpoint.getTransport, List.lookup_cons, beq_false_of_ne hNe]
      exact hT
    · exact ⟨ep', hEp', rfl, fun _ _ => id⟩
  refine ⟨hGrows, fun e' ep' hEp' p hp => ?_, by simp [hAt], hNewTransport⟩
  rw [hAt] at hEp'
  split at hEp'
  · subst e'
    obtain rfl := Option.some.inj hEp'
    rcases List.mem_cons.mp hp with rfl | hp
    · exact ⟨_, hNewTransport, rfl, rfl⟩
    · obtain ⟨tr, hTr, hFt, hE⟩ := hOwned e ep hEp p hp
      exact ⟨tr, hGrows.transport hTr, hFt, hE⟩
  · obtain ⟨tr, hTr, hFt, hE⟩ := hOwned e' ep' hEp' p hp
    exact ⟨tr, hGrows.transport hTr, hFt, hE⟩

/-- One call from a well-formed state: the session is unchanged and stays well formed, the
heap only grows, and the call answers whether the map holds the candidate's id, with the
handles of that endpoint and of the transport serving the packet's four-tuple. -/
theorem addEndpoint_spec {self : Session} {heap : Heap} (hWF : self.WellFormed heap) (c : Candidate)
    (tc : TransportContext) :
    (self.addEndpoint heap c tc).1.1 = self ∧ self.WellFormed (self.addEndpoint heap c tc).1.2 ∧
      heap.Grows (self.addEndpoint heap c tc).1.2 ∧
      ∃ e t, (self.addEndpoint heap c tc).2 = .ok ((self.getEndpoint c.endpointId).isSome, e, t) ∧
        (self.addEndpoint heap c tc).1.2.Serves c tc e t := by
  unfold Session.addEndpoint
  cases hGet : self.getEndpoint c.endpointId with
  | some e =>
    obtain ⟨ep, hEp, hId⟩ := hWF.registered _ _ (mem_of_lookup hGet)
    simp only [hGet, hEp, Option.some_bind, Heap.allocTransport]
    cases hT : ep.getTransport (.ofTransportContext tc) with
    | some t =>
      obtain ⟨tr, hTr, hFt, hE⟩ := hWF.owned e ep hEp _ (mem_of_lookup hT)
      exact ⟨rfl, hWF, .refl heap, e, t, rfl, ⟨ep, hEp, hId, hT⟩, tr, hTr, hFt, hE⟩
    | none =>
      obtain ⟨hg, hOwned, hEp', hTr'⟩ := register_spec rfl hWF.owned hEp hT
      exact ⟨rfl, hWF.grow hg hOwned, hg, e, _, rfl, ⟨_, hEp', hId, by simp [Endpoint.getTransport]⟩, _,
        hTr', rfl, rfl⟩
  | none =>
    simp only [hGet, Heap.allocTransport]
    obtain ⟨hg₁, hOwned₁, hEp₁⟩ := allocEndpoint_spec hWF.owned c.endpointId
    obtain ⟨hg₂, hOwned₂, hEp₂, hTr₂⟩ := register_spec rfl hOwned₁ hEp₁
      (show Endpoint.getTransport ⟨c.endpointId, []⟩ (.ofTransportContext tc) = none from rfl)
    exact ⟨trivial, hWF.grow (hg₁.trans hg₂) hOwned₂, hg₁.trans hg₂, _, _, rfl,
      ⟨_, hEp₂, rfl, by simp [Endpoint.getTransport]⟩, _, hTr₂, rfl, rfl⟩

/-- Every run of `add_endpoint` from a well-formed session and heap, such as the state
`Session::new` leaves with an empty heap. The session never changes and stays well formed,
and the heap only grows, so no handle is ever invalidated. Every call succeeds, answers
"existing" exactly when the session map held the candidate's id before the run, and at the
end of the run its handles are still the endpoint of that id serving the packet's
four-tuple with that transport, the transport filed under the four-tuple and pointing
back. -/
theorem addEndpoints_serve {self : Session} {heap : Heap} (hWF : self.WellFormed heap)
    (calls : List (Candidate × TransportContext)) :
    (Session.addEndpoints (self, heap) calls).1.1 = self ∧
      self.WellFormed (Session.addEndpoints (self, heap) calls).1.2 ∧
      heap.Grows (Session.addEndpoints (self, heap) calls).1.2 ∧
      List.Forall₂ (fun call result => ∃ e t,
          result = .ok ((self.getEndpoint call.1.endpointId).isSome, e, t) ∧
          (Session.addEndpoints (self, heap) calls).1.2.Serves call.1 call.2 e t)
        calls (Session.addEndpoints (self, heap) calls).2 := by
  induction calls generalizing heap with
  | nil => exact ⟨rfl, hWF, .refl heap, .nil⟩
  | cons call rest ih =>
    obtain ⟨c, tc⟩ := call
    obtain ⟨hSelf, hWF', hg, e, t, hRes, hServes⟩ := addEndpoint_spec hWF c tc
    rcases hCall : self.addEndpoint heap c tc with ⟨⟨self', heap'⟩, result⟩
    rw [hCall] at hSelf hWF' hg hRes hServes
    dsimp only at hSelf hWF' hg hRes hServes
    subst hSelf hRes
    obtain ⟨hSelf', hWF'', hg', hAll⟩ := ih hWF'
    simp only [Session.addEndpoints, hCall]
    exact ⟨hSelf', hWF'', hg.trans hg', .cons ⟨e, t, rfl, hServes.grow hg'⟩ hAll⟩

/-- A session whose map registers an endpoint that already serves one path, then that
path again, a second path of the same endpoint, and an unregistered endpoint. -/
theorem addEndpoints_serve_registered :
    ∃ (self : Session) (heap : Heap), self.WellFormed heap ∧ self.getEndpoint "peer" = some 0 ∧
      (Session.addEndpoints (self, heap)
          [(⟨"peer"⟩, ⟨⟨"10.0.0.1", 5000⟩, ⟨"192.0.2.7", 40000⟩, "udp"⟩),
           (⟨"peer"⟩, ⟨⟨"10.0.0.1", 5000⟩, ⟨"192.0.2.8", 40000⟩, "udp"⟩),
           (⟨"other"⟩, ⟨⟨"10.0.0.1", 5000⟩, ⟨"192.0.2.9", 40000⟩, "udp"⟩)]).1.1 = self ∧
      self.WellFormed (Session.addEndpoints (self, heap)
          [(⟨"peer"⟩, ⟨⟨"10.0.0.1", 5000⟩, ⟨"192.0.2.7", 40000⟩, "udp"⟩),
           (⟨"peer"⟩, ⟨⟨"10.0.0.1", 5000⟩, ⟨"192.0.2.8", 40000⟩, "udp"⟩),
           (⟨"other"⟩, ⟨⟨"10.0.0.1", 5000⟩, ⟨"192.0.2.9", 40000⟩, "udp"⟩)]).1.2 ∧
      heap.Grows (Session.addEndpoints (self, heap)
          [(⟨"peer"⟩, ⟨⟨"10.0.0.1", 5000⟩, ⟨"192.0.2.7", 40000⟩, "udp"⟩),
           (⟨"peer"⟩, ⟨⟨"10.0.0.1", 5000⟩, ⟨"192.0.2.8", 40000⟩, "udp"⟩),
           (⟨"other"⟩, ⟨⟨"10.0.0.1", 5000⟩, ⟨"192.0.2.9", 40000⟩, "udp"⟩)]).1.2 ∧
      List.Forall₂ (fun call result => ∃ e t,
          result = .ok ((self.getEndpoint call.1.endpointId).isSome, e, t) ∧
          (Session.addEndpoints (self, heap)
            [(⟨"peer"⟩, ⟨⟨"10.0.0.1", 5000⟩, ⟨"192.0.2.7", 40000⟩, "udp"⟩),
             (⟨"peer"⟩, ⟨⟨"10.0.0.1", 5000⟩, ⟨"192.0.2.8", 40000⟩, "udp"⟩),
             (⟨"other"⟩, ⟨⟨"10.0.0.1", 5000⟩, ⟨"192.0.2.9", 40000⟩, "udp"⟩)]).1.2.Serves call.1 call.2 e t)
        [(⟨"peer"⟩, ⟨⟨"10.0.0.1", 5000⟩, ⟨"192.0.2.7", 40000⟩, "udp"⟩),
         (⟨"peer"⟩, ⟨⟨"10.0.0.1", 5000⟩, ⟨"192.0.2.8", 40000⟩, "udp"⟩),
         (⟨"other"⟩, ⟨⟨"10.0.0.1", 5000⟩, ⟨"192.0.2.9", 40000⟩, "udp"⟩)]
        (Session.addEndpoints (self, heap)
          [(⟨"peer"⟩, ⟨⟨"10.0.0.1", 5000⟩, ⟨"192.0.2.7", 40000⟩, "udp"⟩),
           (⟨"peer"⟩, ⟨⟨"10.0.0.1", 5000⟩, ⟨"192.0.2.8", 40000⟩, "udp"⟩),
           (⟨"other"⟩, ⟨⟨"10.0.0.1", 5000⟩, ⟨"192.0.2.9", 40000⟩, "udp"⟩)]).2 :=
  have hWF : Session.WellFormed ⟨1, ⟨"10.0.0.1", 5000⟩, [], [("peer", 0)]⟩
      ⟨[⟨"peer", [(⟨⟨"10.0.0.1", 5000⟩, ⟨"192.0.2.7", 40000⟩, "udp"⟩, 0)]⟩],
        [⟨⟨⟨"10.0.0.1", 5000⟩, ⟨"192.0.2.7", 40000⟩, "udp"⟩, 0, ⟨"peer"⟩⟩]⟩ := by
    refine ⟨fun id e h => ?_, fun e ep h p hp => ?_⟩
    · obtain ⟨rfl, rfl⟩ := Prod.mk.inj (List.mem_singleton.mp h)
      exact ⟨_, rfl, rfl⟩
    · match e, h with
      | 0, h =>
        obtain rfl := Option.some.inj h
        obtain rfl := List.mem_singleton.mp hp
        exact ⟨_, rfl, rfl, rfl⟩
  ⟨_, _, hWF, rfl, addEndpoints_serve hWF _⟩

end Sfu
