import OrderDesk.Http.Serve
import OrderDesk.Proofs.Desk.Atomicity

/-!
# The layers around a handler

A request is counted, traced and logged around its handler. All of this adds notes to the state and
nothing else, and it passes the answer of the handler on, unless that panicked.

* `Notes`               nothing but the notes of what happened differ;
* `layered_ends`        the four layers end as the handler did, where a panic became an answer;
* `serve_route`         serving a request that has a route, by the end of its handler;
* `serve_elsewhere`     serving any other request.
-/

namespace OrderDesk.Http

open OrderDesk.Action (Keeps Fixed)
open Desk (effects beside)

/-- Nothing but the notes of what happened differ: lines, counts, spans, and random numbers. -/
def Notes (d d' : Desk) : Prop := effects d' = effects d ∧ beside d' = beside d

instance : IsPreorder Desk Notes where
  refl _ := ⟨rfl, rfl⟩
  trans _ _ _ h₁ h₂ := ⟨h₂.1.trans h₁.1, h₂.2.trans h₁.2⟩

variable {f : Front} {r : Request} {d d' : Desk} {o : Outcome Answer} {route : Route} {id : Octets}

/-- what follows an answer and passes it on -/
def Passes (k : Answer → Action Desk Answer) : Prop :=
  ∀ a d, ∃ d', k a d = (.ok a, d') ∧ Notes d d'

theorem Passes.bind {x : Action Desk Answer} {k : Answer → Action Desk Answer} (hk : Passes k)
    (h : (x >>= k) d = (o, d')) : ∃ d₁, x d = (o, d₁) ∧ Notes d₁ d' := by
  rcases hx : x d with ⟨o₁, d₁⟩
  cases o₁ with
  | ok a =>
    rw [Action.bind_of_ok hx] at h
    obtain ⟨d₂, hend, hnotes⟩ := hk a d₁
    rw [hend] at h
    obtain ⟨rfl, rfl⟩ := Prod.mk.inj h
    exact ⟨d₁, rfl, hnotes⟩
  | failed e =>
    rw [Action.bind_of_failed hx] at h
    obtain ⟨rfl, rfl⟩ := Prod.mk.inj h
    exact ⟨d₁, rfl, refl_of Notes d₁⟩
  | panicked t =>
    rw [Action.bind_of_panicked hx] at h
    obtain ⟨rfl, rfl⟩ := Prod.mk.inj h
    exact ⟨d₁, rfl, refl_of Notes d₁⟩

theorem logged_ends {s : Scope} {own : Option Octets} {x : Action Desk Answer}
    (h : logged r own s x d = (o, d')) : ∃ d₁, x d = (o, d₁) ∧ Notes d₁ d' := by
  have hlog : Passes fun a => do
      Desk.log s (accessLevel a.status) "http_request" (accessAttrs r own a)
      return a := fun _ _ => ⟨_, rfl, rfl, rfl⟩
  exact hlog.bind h

theorem counted_ends {label : String} {x : Action Desk Answer}
    (h : counted r label x d = (o, d')) : ∃ d₁, x d = (o, d₁) ∧ Notes d₁ d' := by
  refine Passes.bind (fun a d => ?_) h
  dsimp only
  split <;> exact ⟨_, rfl, rfl, rfl⟩

/-- the end of a handler, where a panic became an answer -/
def mended : Outcome Answer → Outcome Answer
  | .panicked _ => .ok { status := 500 }
  | o => o

/-- **The four layers** end as the handler did, where a panic became an answer. -/
theorem layered_ends {own : Option Octets} {asked : Option Route} {reqId : String}
    {x : Scope → Action Desk Answer} (h : layered r asked own reqId x d = (o, d')) :
    ∃ s t o₁ d₁, x s { d with tracer := t } = (o₁, d₁) ∧ Notes d₁ d' ∧ o = mended o₁ := by
  have h : recovered (counted r _ (traced r _ _ fun s => logged r own s (x s))) d = (o, d') := h
  unfold recovered at h
  rcases hcounted : counted r _ (traced r _ _ fun s => logged r own s (x s)) d with ⟨o₁, d₁⟩
  rw [hcounted] at h
  obtain ⟨d₂, htraced, hnotes₂⟩ := counted_ends hcounted
  obtain ⟨s, t, t', d₃, hlogged, rfl⟩ := Desk.inSpan_end htraced
  obtain ⟨d₄, hx, hnotes₄⟩ := logged_ends hlogged
  have hnotes : Notes d₄ d₁ := trans_of Notes hnotes₄ (trans_of Notes ⟨rfl, rfl⟩ hnotes₂)
  refine ⟨s, t, o₁, d₄, hx, ?_⟩
  cases o₁ with
  | panicked text | ok a | failed e =>
    obtain ⟨rfl, rfl⟩ := Prod.mk.inj h
    exact ⟨hnotes, rfl⟩

theorem requestId_apply (r : Request) (d : Desk) :
    ∃ reqId u, requestId r d = (.ok reqId, { d with uuids := u }) := by
  by_cases hown : r.header "X-Request-Id" = ""
  · have h : requestId r = (do return Uuid.text (← Desk.takeUuid)) := if_pos hown
    rw [h]
    exact ⟨_, _, rfl⟩
  · have h : requestId r = pure (r.header "X-Request-Id") := if_neg hown
    rw [h]
    exact ⟨_, d.uuids, rfl⟩

/-- the response to a request, from the end of its handler -/
def reply (reqId : String) : Outcome Answer → Outcome Response
  | .ok a => .ok (a.withHeader "X-Request-Id" reqId).response
  | .failed e => .failed e
  | .panicked t => .panicked t

theorem status_of_reply {reqId : String} {response : Response}
    (h : reply reqId (mended o) = .ok response) :
    response.status = 500 ∨ ∃ a, o = .ok a ∧ response.status = a.status := by
  cases o with
  | ok a =>
    obtain rfl := Outcome.ok.inj h
    exact .inr ⟨a, rfl, rfl⟩
  | failed e => cases h
  | panicked t =>
    obtain rfl := Outcome.ok.inj h
    exact .inl rfl

/-- **A request that has a route** is served by the handler of the route. -/
theorem serve_route (f : Front) (d : Desk) (h : resolve r.method r.path = .route route id) :
    ∃ reqId s t u o d₁, handle f s route id r { d with tracer := t, uuids := u } = (o, d₁) ∧
      Notes d₁ (serve f r d).2 ∧ (serve f r d).1 = reply reqId (mended o) := by
  obtain ⟨reqId, u, hreq⟩ := requestId_apply r d
  have hserve : serve f r d = (layered r (some route)
      (if route.segments.contains .id then some id else none) reqId (fun s => handle f s route id r)
      >>= fun a => pure (a.withHeader "X-Request-Id" reqId).response) { d with uuids := u } := by
    unfold serve
    rw [h]
    exact Action.bind_of_ok hreq
  rcases hlayered : layered r (some route) (if route.segments.contains .id then some id else none)
    reqId (fun s => handle f s route id r) { d with uuids := u } with ⟨o, d₂⟩
  obtain ⟨s, t, o₁, d₁, hhandle, hnotes, rfl⟩ := layered_ends hlayered
  refine ⟨reqId, s, t, u, o₁, d₁, hhandle, ?_, ?_⟩
  · rw [hserve, Action.bind_pure_snd, hlayered]
    exact hnotes
  · rw [hserve]
    cases hend : mended o₁ with
    | ok a => rw [Action.bind_of_ok (hlayered.trans (by rw [hend]))]; rfl
    | failed e => rw [Action.bind_of_failed (hlayered.trans (by rw [hend]))]; rfl
    | panicked t => rw [Action.bind_of_panicked (hlayered.trans (by rw [hend]))]; rfl

/-- **A request that has no route** is noted at most. -/
theorem serve_elsewhere (h : ∀ route id, resolve r.method r.path ≠ .route route id) :
    Notes d (serve f r d).2 := by
  unfold serve
  cases hresolve : resolve r.method r.path with
  | route route id => exact absurd hresolve (h route id)
  | redirect path => exact refl_of Notes d
  | nothing =>
    have hid : Keeps Notes (requestId r) := fun d => by
      obtain ⟨reqId, u, hreq⟩ := requestId_apply r d
      rw [hreq]
      exact ⟨rfl, rfl⟩
    have hlayered : ∀ reqId, Keeps Notes
        (layered r none none reqId fun _ => pure { status := 404 }) := fun reqId d => by
      rcases hrun : layered r none none reqId (fun _ => pure { status := 404 }) d with ⟨o, d'⟩
      obtain ⟨s, t, o₁, d₁, hpure, hnotes, -⟩ := layered_ends hrun
      obtain ⟨-, rfl⟩ := Prod.mk.inj hpure
      exact trans_of Notes ⟨rfl, rfl⟩ hnotes
    refine Keeps.bind hid (fun reqId => (hlayered reqId).bind fun a => ?_) d
    split
    · exact .pure _
    · exact .pure _

end OrderDesk.Http
