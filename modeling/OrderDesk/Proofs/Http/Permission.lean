import OrderDesk.Proofs.Access.Token
import OrderDesk.Proofs.Http.Layers

/-!
# No effect without permission

A request changes the store or the keyspace, or publishes something, only when it carries a token
that holds and lists the permission of its route; and whoever is turned away has changed nothing.

* `Along`                     the path of a request runs along the segments of a route;
* `guarded`                   the requests that can have an effect, with the permission of each;
* `carries_of_require`        what the guard of a route lets pass;
* `handleEndpoint_looks`      the endpoints that only look;
* `handleEndpoint_welcomes`   behind its guard nobody is turned away;
* `serve_guarded`             what serving a request comes to;
* `effects_are_permitted`     the whole of it.
-/

namespace OrderDesk.Http

open Access (Genuine)
open OrderDesk.Action (Keeps Fixed)
open Desk (effects beside)
open Store (Database Sent)

variable {f : Front} {r : Request} {s : Scope} {id : Octets} {client : Option String}

/-! ## paths -/

/-- A piece of a path fits a segment. -/
def Segment.Fits : Segment → Octets → Prop
  | .fixed name, piece => piece = Octets.ofText name
  | .id, _ => True

/-- A path runs along the segments of a route. -/
def Along (segs : List Segment) (path : Octets) : Prop :=
  ∃ pieces, segmentsOf? path = some pieces ∧ List.Forall₂ Segment.Fits segs pieces

theorem fits_of_follow {segs : List Segment} {pieces : List Octets} {found : Option Octets}
    (h : follow segs pieces = some ([], found)) : List.Forall₂ Segment.Fits segs pieces := by
  induction segs generalizing pieces found with
  | nil =>
    cases pieces with
    | nil => exact .nil
    | cons p ps => cases h
  | cons seg segs ih =>
    cases pieces with
    | nil => cases h
    | cons p ps =>
      cases seg with
      | fixed name =>
        obtain ⟨hp, hrest⟩ := Option.ite_none_right_eq_some.mp h
        exact .cons hp (ih hrest)
      | id =>
        obtain ⟨⟨rest, later⟩, hrest, hend⟩ := Option.map_eq_some_iff.mp h
        obtain ⟨rfl, -⟩ := Prod.mk.inj hend
        exact .cons trivial (ih hrest)

/-- the route of a request is one of the routes, and has its method and its path -/
theorem of_resolve {method : String} {path : Octets} {route : Route}
    (h : resolve method path = .route route id) :
    route ∈ routes ∧ route.method = method ∧ Along route.segments path := by
  unfold resolve at h
  split at h
  case h_1 => cases h
  case h_2 pieces hpieces =>
    dsimp only at h
    split at h
    case h_2 => split at h <;> cases h
    case h_1 found hfirst =>
      obtain ⟨route', hmem, hmatch⟩ := List.exists_of_findSome?_eq_some hfirst
      obtain ⟨number, hnumber, hpair⟩ := Option.map_eq_some_iff.mp hmatch
      obtain ⟨rfl, rfl⟩ := Prod.mk.inj hpair
      obtain ⟨rfl, -⟩ := Resolution.route.inj h
      obtain ⟨hroute, hmethod⟩ := List.mem_filter.mp hmem
      refine ⟨hroute, eq_of_beq hmethod, pieces, hpieces, ?_⟩
      unfold Route.match? at hnumber
      split at hnumber
      case h_1 hfollow => exact fits_of_follow hfollow
      case h_2 => cases hnumber

/-! ## who may do what -/

/-- The requests that can have an effect, by method and path, each with the permission that it
needs. A look at an order fills the cache. -/
def guarded : List (String × List Segment × String) :=
  let orders := [Segment.fixed "v1", .fixed "orders"]
  let products := [Segment.fixed "v1", .fixed "products"]
  let categories := [Segment.fixed "v1", .fixed "categories"]
  [("POST", orders, "orders.write"),
   ("GET", orders ++ [.id], "orders.read"),
   ("PUT", orders ++ [.id, .fixed "status"], "orders.admin"),
   ("DELETE", orders ++ [.id], "orders.admin"),
   ("POST", products, "catalog.write"),
   ("PUT", products ++ [.id], "catalog.write"),
   ("DELETE", products ++ [.id], "catalog.write"),
   ("POST", categories, "catalog.write"),
   ("PUT", categories ++ [.id], "catalog.write"),
   ("DELETE", categories ++ [.id], "catalog.write")]

/-- The request carries a token that is accepted and lists a permission. -/
def Carries (f : Front) (r : Request) (p : String) : Prop :=
  ∃ raw claims, r.header "Authorization" = "Bearer " ++ raw ∧
    Access.verify? f.settings.security f.present raw = some claims ∧
    Genuine f.settings.security f.present raw claims ∧ Access.Claims.Lists claims p

theorem of_bearer? {raw : String} (h : bearer? r = some raw) :
    r.header "Authorization" = "Bearer " ++ raw := by
  obtain ⟨hstarts, hraw⟩ := Option.ite_none_right_eq_some.mp h
  obtain ⟨rest, hrest⟩ := String.startsWith_string_iff.mp hstarts
  apply String.toList_injective
  rw [← Option.some.inj hraw, ← hrest]
  simp

theorem carries_of_require {p : String}
    (h : require f.settings.security f.present [p] r = .ok client) : Carries f r p := by
  unfold require at h
  split at h
  case h_1 => cases h
  case h_2 raw hraw =>
    split at h
    case h_1 => cases h
    case h_2 claims hclaims =>
      split at h
      case isFalse => cases h
      case isTrue hpermit =>
        exact ⟨raw, claims, of_bearer? hraw, hclaims, Access.genuine_of_verify? hclaims,
          Access.Claims.lists_of_permit hpermit List.mem_cons_self⟩

theorem require_ok {c : Settings.Security} {now : Int} {perms : List String} {r : Request}
    {raw : String} {claims : Access.Claims} (hraw : bearer? r = some raw)
    (hclaims : Access.verify? c now raw = some claims)
    (hpermit : Access.Claims.permit claims perms = true) :
    require c now perms r = .ok (Access.Claims.client? claims) := by
  unfold require
  rw [hraw]
  dsimp only
  rw [hclaims]
  exact if_pos hpermit

/-- an accepted token that lists what is asked for lets its holder through -/
theorem exists_require_ok {c : Settings.Security} {now : Int} {perms : List String} {r : Request}
    {raw : String} (hraw : bearer? r = some raw) (hverified : (Access.verify? c now raw).any
      (fun claims => Access.Claims.permit claims perms) = true) :
    ∃ client, require c now perms r = .ok client := by
  obtain ⟨claims, hclaims, hpermit⟩ := (Option.any_eq_true _ _).mp hverified
  exact ⟨_, require_ok hraw hclaims hpermit⟩

theorem require_none {c : Settings.Security} {now : Int} {perms : List String} {r : Request}
    (h : bearer? r = none) :
    require c now perms r = .error (turnAway 401 "invalid_request" "missing bearer token") := by
  unfold require
  rw [h]

/-! ## what a handler does -/

/-- What of the state a request can change: the record of the store, the keyspace, the broker. -/
def records (d : Desk) : (Database ⊕ List Sent) × Option Redis × Option Event.Broker :=
  (d.store.record, d.redis, d.broker)

/-- what of it is no cache -/
def lasting (d : Desk) : (Database ⊕ List Sent) × Option Event.Broker := (d.store.record, d.broker)

section
variable {α γ : Type} {g : Desk → γ}

theorem ofFailure_keeps (hg : ∀ d lines, g { d with lines } = g d) (e : Failure) :
    Keeps (Fixed g) (Answer.ofFailure s e) := by
  unfold Answer.ofFailure
  split
  · exact .pure _
  · exact Keeps.bind (fun d => hg d _) fun _ => .pure _

/-- what an action leaves alone, so does answering its end -/
theorem of_keeps (hg : ∀ d lines, g { d with lines } = g d) {x : Action Desk α} {a : α → Answer}
    (hx : Keeps (Fixed g) x) : Keeps (Fixed g) (Answer.of s x a) := by
  intro d
  unfold Answer.of
  rcases hrun : x d with ⟨o, d₁⟩
  have hend : Fixed g d d₁ := hx.of_eq hrun
  cases o with
  | ok v => exact hend
  | failed e => exact trans_of (Fixed g) hend (ofFailure_keeps hg e d₁)
  | panicked t => exact hend

theorem orAnswer_keeps {e : Except Answer α} {k : α → Action Desk Answer}
    (hk : ∀ v, Keeps (Fixed g) (k v)) : Keeps (Fixed g) (orAnswer e k) := by
  cases e with
  | ok v => exact hk v
  | error a => exact .pure a

end

theorem onStore_records {α : Type} {x : Action Store.Backend α} (hx : Keeps Store.ReadOnly x) :
    Keeps (Fixed records) (Store.onStore x : Action Desk α) := fun d => by
  have hstore : (x d.store).2.record = d.store.record := hx d.store
  show (_, d.redis, d.broker) = (_, d.redis, d.broker)
  rw [show (Store.onStore x d).2.store.record = d.store.record from hstore]

theorem stored_records {α : Type} (c : Call) {x : Action Store.Backend α}
    (hx : Keeps Store.ReadOnly x) : Keeps (Fixed records) (Desk.stored c x) :=
  Keeps.bind ((Desk.reach_fixed c).mono fun _ _ h => congrArg records h) fun _ => onStore_records hx

/-- the endpoints that only look, but for a look at one order -/
def Endpoint.looks : Endpoint → Bool
  | .health | .metrics | .token | .listOrders | .listProducts | .getProduct | .listCategories
  | .getCategory => true
  | _ => false

/-- **The endpoints that only look** leave the records as they were. -/
theorem handleEndpoint_looks {e : Endpoint} (he : e.looks = true) :
    Keeps (Fixed records) (handleEndpoint f s e client id r) := by
  have hof : ∀ {α : Type} {x : Action Desk α} {a : α → Answer}, Keeps (Fixed records) x →
      Keeps (Fixed records) (Answer.of s x a) := fun hx => of_keeps (fun _ _ => rfl) hx
  cases e with
  | health | metrics => exact .pure _
  | token => exact Keeps.bind .state fun _ => .pure _
  | listOrders =>
    refine orAnswer_keeps fun page => hof (Keeps.bind (.ofExcept _) fun status => ?_)
    exact (stored_records _ (Store.Orders.find_readOnly status page)).bind fun _ => .pure _
  | listProducts =>
    exact orAnswer_keeps fun page => hof (onStore_records (Store.Products.list_readOnly _ page))
  | getProduct =>
    exact orAnswer_keeps fun id =>
      hof (stored_records _ (Store.readOne_keeps _ _ _ (Store.send_readOnly rfl)))
  | listCategories =>
    exact hof (onStore_records (Store.allRows_keeps _ _ (Store.send_readOnly rfl)))
  | getCategory => exact orAnswer_keeps fun id => hof (onStore_records (Store.Categories.get_readOnly id))
  | _ => cases he

/-- a look at an order fills the cache at most -/
theorem getOrder_lasting (id : Octets) : Keeps (Fixed lasting) (getOrder s id) := by
  have hkept : ∀ {α : Type} (absent : α) (x : Action Redis α),
      Keeps (Fixed lasting) (Desk.kept absent x) := fun absent x d => by
    unfold Desk.kept
    cases d.redis <;> rfl
  have hreach : ∀ c, Keeps (Fixed lasting) (Desk.reach c) := fun c =>
    (Desk.reach_fixed c).mono fun _ _ h => congrArg lasting h
  have hlog : ∀ level message attrs, Keeps (Fixed lasting) (Desk.log s level message attrs) :=
    fun _ _ _ _ => rfl
  refine orAnswer_keeps fun id => of_keeps (fun _ _ => rfl) (Keeps.bind ?_ fun found => ?_)
  · refine Keeps.bind .state fun d => ?_
    split
    · refine Keeps.bind ((hreach _).bind fun _ => hkept _ _).attempt fun found => ?_
      split
      · exact .pure _
      · exact (hlog _ _ _).bind fun _ => .pure _
    · exact .pure _
  · split
    · exact .pure _
    · have hread := stored_records .getOrder (Store.Orders.read_readOnly false id)
      refine (hread.mono fun _ _ h => congrArg (fun x => (x.1, x.2.2)) h).bind fun o => ?_
      refine Keeps.bind (Keeps.bind .state fun d => ?_) fun _ => .pure _
      refine (hkept _ _).attempt.bind fun done => ?_
      split
      · exact .pure _
      · exact hlog _ _ _

/-! ## who is turned away -/

/-- A caller is told that they may not do this. -/
def Answer.TurnsAway (a : Answer) : Prop := a.status = 401 ∨ a.status = 403

/-- a guard that does not let a request pass turns its caller away -/
theorem turnsAway_of_require {c : Settings.Security} {now : Int} {perms : List String} {a : Answer}
    (h : require c now perms r = .error a) : a.TurnsAway := by
  unfold require at h
  split at h
  case h_1 => exact Except.error.inj h ▸ .inl rfl
  case h_2 =>
    split at h
    case h_1 => exact Except.error.inj h ▸ .inl rfl
    case h_2 =>
      split at h
      case isTrue => cases h
      case isFalse => exact Except.error.inj h ▸ .inr rfl

/-- Nobody is turned away. -/
def Welcomes (x : Action Desk Answer) : Prop := ∀ d a d', x d = (.ok a, d') → ¬ a.TurnsAway

theorem welcomes_pure {a : Answer} (ha : ¬ a.TurnsAway) : Welcomes (pure a) := by
  intro d a' d' h
  obtain rfl := Outcome.ok.inj (Prod.mk.inj h).1
  exact ha

theorem invalid_welcomes (fields : List (String × Reason)) : ¬ (Answer.invalid fields).TurnsAway := by
  rintro (h | h) <;> cases h

theorem written_welcomes {status : Nat} {v : Except Unwritable Json.Value} (h401 : status ≠ 401)
    (h403 : status ≠ 403) : ¬ (Answer.written status v).TurnsAway := by
  cases v with
  | ok v => exact fun h => h.elim h401 h403
  | error u => exact fun h => h.elim h401 h403

theorem ofCause?_status {message : String} {c : Cause} {a : Answer}
    (h : Answer.ofCause? message c = some a) : a.status = 400 ∨ a.status = 404 ∨ a.status = 409 := by
  cases c <;> cases h <;> simp [Answer.invalid, Answer.refusal, Answer.json]

theorem ofFailure_welcomes (e : Failure) : Welcomes (Answer.ofFailure s e) := by
  unfold Answer.ofFailure
  split
  case h_1 a ha =>
    obtain ⟨c, -, hc⟩ := Option.bind_eq_some_iff.mp ha
    have hstatus := ofCause?_status hc
    exact welcomes_pure fun haway => by unfold Answer.TurnsAway at haway; omega
  case h_2 =>
    intro d a d' h
    obtain ⟨u, d₁, -, hend⟩ := Action.bind_ok_iff.mp h
    obtain rfl := Outcome.ok.inj (Prod.mk.inj hend).1
    rintro (h | h) <;> cases h

theorem of_welcomes {α : Type} {x : Action Desk α} {a : α → Answer} (ha : ∀ v, ¬ (a v).TurnsAway) :
    Welcomes (Answer.of s x a) := by
  intro d answer d' h
  unfold Answer.of at h
  rcases hrun : x d with ⟨o, d₁⟩
  rw [hrun] at h
  cases o with
  | ok v =>
    obtain rfl := Outcome.ok.inj (Prod.mk.inj h).1
    exact ha v
  | failed e => exact ofFailure_welcomes e _ _ _ h
  | panicked t => cases (Prod.mk.inj h).1

theorem pathId_welcomes {raw : Octets} {k : Int → Action Desk Answer} (hk : ∀ n, Welcomes (k n)) :
    Welcomes (orAnswer (pathId raw) k) := by
  unfold pathId
  split
  case h_1 n _ =>
    split
    · exact hk n
    · exact welcomes_pure (invalid_welcomes _)
  case h_2 => exact welcomes_pure (invalid_welcomes _)

theorem pageOf_welcomes {l : Limits} {k : PageRequest → Action Desk Answer}
    (hk : ∀ page, Welcomes (k page)) : Welcomes (orAnswer (pageOf l r) k) := by
  unfold pageOf
  split
  case h_1 => exact hk _
  all_goals exact welcomes_pure (invalid_welcomes _)

theorem withBody_welcomes {α : Type} {x : Option α} {k : α → Action Desk Answer}
    (hk : ∀ a, Welcomes (k a)) : Welcomes (withBody x k) := by
  cases x with
  | some a => exact hk a
  | none => exact welcomes_pure (invalid_welcomes _)

/-- **Behind a guard nobody is turned away.** -/
theorem handleEndpoint_welcomes {e : Endpoint} (he : e ≠ .token) :
    Welcomes (handleEndpoint f s e client id r) := by
  have hwritten : ∀ {v : Except Unwritable Json.Value}, ¬ (Answer.written 200 v).TurnsAway :=
    written_welcomes (by decide) (by decide)
  have hcreated : ∀ {v : Except Unwritable Json.Value} {name value : String},
      ¬ ((Answer.written 201 v).withHeader name value).TurnsAway := by
    intro v name value
    exact written_welcomes (v := v) (by decide) (by decide)
  have hempty : ¬ Answer.noContent.TurnsAway := by rintro (h | h) <;> cases h
  cases e with
  | token => exact absurd rfl he
  | health => exact welcomes_pure (by rintro (h | h) <;> cases h)
  | metrics => exact welcomes_pure (by rintro (h | h) <;> cases h)
  | createOrder =>
    show Welcomes (createOrder f.limits s client r)
    unfold createOrder
    split
    · exact welcomes_pure (invalid_welcomes _)
    · split
      · exact of_welcomes fun _ => hcreated
      · exact welcomes_pure (invalid_welcomes _)
  | listOrders => exact pageOf_welcomes fun _ => of_welcomes fun _ => hwritten
  | getOrder => exact pathId_welcomes fun _ => of_welcomes fun _ => hwritten
  | changeStatus =>
    refine pathId_welcomes fun n => ?_
    dsimp only
    split
    · exact welcomes_pure (invalid_welcomes _)
    · exact of_welcomes fun _ => hempty
  | deleteOrder => exact pathId_welcomes fun _ => of_welcomes fun _ => hempty
  | createProduct => exact withBody_welcomes fun _ => of_welcomes fun _ => hcreated
  | listProducts => exact pageOf_welcomes fun _ => of_welcomes fun _ => hwritten
  | getProduct => exact pathId_welcomes fun _ => of_welcomes fun _ => hwritten
  | updateProduct =>
    exact pathId_welcomes fun _ => withBody_welcomes fun _ => of_welcomes fun _ => hwritten
  | deleteProduct => exact pathId_welcomes fun _ => of_welcomes fun _ => hempty
  | listCategories => exact of_welcomes fun _ => hwritten
  | getCategory => exact pathId_welcomes fun _ => of_welcomes fun _ => hwritten
  | createCategory => exact withBody_welcomes fun _ => of_welcomes fun _ => hcreated
  | renameCategory =>
    exact pathId_welcomes fun _ => withBody_welcomes fun _ => of_welcomes fun _ => hwritten
  | deleteCategory => exact pathId_welcomes fun _ => of_welcomes fun _ => hempty

/-! ## no effect without permission -/

/-- every route only looks, or is guarded; of the latter a `GET` is for one order -/
theorem guarded_of_mem_routes : ∀ route ∈ routes, route.endpoint.looks = true ∨
    (∀ p ∈ route.perm, (route.method, route.segments, p) ∈ guarded) ∧
      (route.method = "GET" → route.endpoint = .getOrder) := by
  decide

theorem open_of_mem_routes : ∀ route ∈ routes, route.perm = none →
    route.endpoint = .health ∨ route.endpoint = .metrics ∨ route.endpoint = .token := by
  decide

theorem ne_token_of_mem_routes : ∀ route ∈ routes, ∀ p ∈ route.perm, route.endpoint ≠ .token := by
  decide

/-- **The guard of a route**: nothing happens, or the permission is there. -/
theorem handle_guarded (f : Front) (s : Scope) (r : Request) (id : Octets) {route : Route}
    (hmem : route ∈ routes) (d : Desk) :
    (handle f s route id r d).2 = d ∨ ∃ p client, route.perm = some p ∧ Carries f r p ∧
      handle f s route id r = handleEndpoint f s route.endpoint client id r := by
  unfold handle
  cases hp : route.perm with
  | none =>
    rcases open_of_mem_routes route hmem hp with h | h | h <;> rw [h] <;> exact .inl rfl
  | some p =>
    dsimp only
    cases hreq : require f.settings.security f.present [p] r with
    | error a => exact .inl rfl
    | ok client => exact .inr ⟨p, client, rfl, carries_of_require hreq, rfl⟩

/-- whoever has the permission is answered by the handler -/
theorem serve_permitted {d : Desk} {rest : List Segment} {p : String} {e : Endpoint}
    (hroute : resolve r.method r.path = .route (.v1 r.method rest (some p) e) id)
    (hclient : require f.settings.security f.present [p] r = .ok client) :
    ∃ reqId s t u o d₁,
      handleEndpoint f s e client id r { d with tracer := t, uuids := u } = (o, d₁) ∧
      (serve f r d).1 = reply reqId (mended o) := by
  obtain ⟨reqId, s, t, u, o, d₁, hrun, -, hreply⟩ := serve_route f d hroute
  unfold handle at hrun
  dsimp only [Route.v1] at hrun
  rw [hclient] at hrun
  exact ⟨reqId, s, t, u, o, d₁, hrun, hreply⟩

theorem Notes.records {d d' : Desk} (h : Notes d d') : records d' = records d :=
  congrArg (fun e => (e.1.record, e.2.1, e.2.2)) h.1

theorem lasting_of_records {d d' : Desk} (h : records d' = records d) : lasting d' = lasting d :=
  congrArg (fun e => (e.1, e.2.2)) h

/-- **Serving a request** leaves nothing but notes, or the permission is there and the handler of the
route decides. -/
theorem serve_guarded (f : Front) (r : Request) (d : Desk) : Notes d (serve f r d).2 ∨
    ∃ route ∈ routes, ∃ p ∈ route.perm, route.method = r.method ∧ Along route.segments r.path ∧
      Carries f r p ∧ ∃ reqId s client id d₀ o d₁, Notes d d₀ ∧
        handleEndpoint f s route.endpoint client id r d₀ = (o, d₁) ∧ Notes d₁ (serve f r d).2 ∧
        (serve f r d).1 = reply reqId (mended o) := by
  by_cases hroute : ∃ route id, resolve r.method r.path = .route route id
  case neg => exact .inl (serve_elsewhere fun route id h => hroute ⟨route, id, h⟩)
  case pos =>
    obtain ⟨route, id, hroute⟩ := hroute
    obtain ⟨hmem, hmethod, hpath⟩ := of_resolve hroute
    obtain ⟨reqId, s, t, u, o, d₁, hhandle, hnotes, hreply⟩ := serve_route f d hroute
    have hstart : Notes d { d with tracer := t, uuids := u } := ⟨rfl, rfl⟩
    obtain hsame | ⟨p, client, hp, hcarries, hrun⟩ :=
      handle_guarded f s r id hmem { d with tracer := t, uuids := u }
    case inl =>
      rw [hhandle] at hsame
      obtain rfl : d₁ = { d with tracer := t, uuids := u } := hsame
      exact .inl (trans_of Notes hstart hnotes)
    case inr =>
      exact .inr ⟨route, hmem, p, hp, hmethod, hpath, hcarries, reqId, s, client, id, _, o, d₁,
        hstart, hrun ▸ hhandle, hnotes, hreply⟩

/-- **No effect without permission.** Whatever is asked for and whatever the state: if serving a
request changes the record of the store or the keyspace, or publishes something, then the request is
one of the guarded ones, and it carries a token that is accepted under the settings and lists the
permission of its route; a `GET` changes the keyspace alone. Whoever is answered 401 or 403 has left
nothing but notes. -/
theorem effects_are_permitted (f : Front) (r : Request) (d : Desk) :
    (records (serve f r d).2 ≠ records d →
      (∃ segs p, (r.method, segs, p) ∈ guarded ∧ Along segs r.path ∧ Carries f r p) ∧
        (r.method ≠ "GET" ∨ lasting (serve f r d).2 = lasting d)) ∧
      ∀ response, (serve f r d).1 = .ok response →
        response.status = 401 ∨ response.status = 403 → Notes d (serve f r d).2 := by
  obtain hnotes | ⟨route, hmem, p, hp, hmethod, hpath, hcarries, reqId, s, client, id, d₀, o, d₁,
    hstart, hrun, hend, hreply⟩ := serve_guarded f r d
  case inl => exact ⟨fun hne => absurd hnotes.records hne, fun _ _ _ => hnotes⟩
  case inr =>
    refine ⟨fun hne => ?_, fun response hresponse haway => ?_⟩
    · rcases guarded_of_mem_routes route hmem with hlooks | ⟨hguarded, hget⟩
      · have hkept : records d₁ = records d₀ := (handleEndpoint_looks hlooks).of_eq hrun
        exact absurd (hend.records.trans (hkept.trans hstart.records)) hne
      · refine ⟨⟨route.segments, p, hmethod ▸ hguarded p hp, hpath, hcarries⟩, ?_⟩
        -- a guarded `GET` is a look at one order, and fills the cache at most
        refine or_iff_not_imp_left.mpr fun hm => ?_
        rw [hget (hmethod.trans (not_not.mp hm))] at hrun
        have hkept : lasting d₁ = lasting d₀ := (getOrder_lasting id).of_eq hrun
        exact (lasting_of_records hend.records).trans
          (hkept.trans (lasting_of_records hstart.records))
    · rcases status_of_reply (hreply.symm.trans hresponse) with h500 | ⟨a, rfl, hstatus⟩
      · omega
      · rw [hstatus] at haway
        have htoken : route.endpoint ≠ .token := ne_token_of_mem_routes route hmem p hp
        exact absurd haway (handleEndpoint_welcomes htoken _ _ _ hrun)

/-! ## a product is removed -/

/-- a service with a key of one letter, at the start of 1970 -/
def keyed : Front where
  settings := { security := { jwtSecret := "k" } }
  limits := ⟨0, 20, 100⟩
  present := 0

/-- a token with the permission to change the catalog and no other claim -/
def catalogToken : String :=
  "eyJhbGciOiJIUzI1NiJ9.eyJwZXJtcyI6WyJjYXRhbG9nLndyaXRlIl19." ++
    "l2zwnf7RkcNf2fPqdrOZjpjm_LuwaFtvxN7uQPF1uHw"

/-- a request to remove the first product -/
def removal (headers : List (String × String)) : Request :=
  ⟨"DELETE", Octets.ofText "/v1/products/1", none, headers, []⟩

theorem removal_route (headers : List (String × String)) :
    resolve (removal headers).method (removal headers).path
      = .route (.v1 "DELETE" [.fixed "products", .id] (some Access.catalogWrite) .deleteProduct)
        (Octets.ofText "1") := by
  show resolve "DELETE" (Octets.ofText "/v1/products/1") = _
  decide +kernel

theorem deleteProduct_one (s : Scope) : deleteProduct s (Octets.ofText "1")
    = Answer.of s (Desk.deleteProduct s 1) fun _ => .noContent := by
  have hnumber : (Octets.ofText "1").toText?.bind Word.parseInt? = some 1 := by decide +kernel
  unfold deleteProduct pathId
  rw [hnumber]
  rfl

section
variable {headers : List (String × String)}

theorem serve_removal_error {a : Answer} (d : Desk) (h : require keyed.settings.security keyed.present
      [Access.catalogWrite] (removal headers) = .error a) :
    ∃ reqId, (serve keyed (removal headers) d).1 = reply reqId (.ok a) := by
  obtain ⟨reqId, s, t, u, o, d₁, hrun, -, hreply⟩ := serve_route keyed d (removal_route headers)
  unfold handle at hrun
  dsimp only [Route.v1] at hrun
  rw [h] at hrun
  obtain rfl := (Prod.mk.inj hrun).1
  exact ⟨reqId, hreply⟩

theorem serve_removal_ok {client : Option String}
    (h : require keyed.settings.security keyed.present [Access.catalogWrite] (removal headers)
      = .ok client) :
    (serve keyed (removal headers) (Desk.shopWith {} {})).2.store
      = (Store.Products.delete 1 (Desk.shopWith {} {}).store).2 := by
  obtain ⟨reqId, s, t, u, o, d₁, hrun, hnotes, -⟩ :=
    serve_route keyed (Desk.shopWith {} {}) (removal_route headers)
  unfold handle at hrun
  dsimp only [Route.v1] at hrun
  rw [h] at hrun
  have hrun : deleteProduct s (Octets.ofText "1") _ = (o, d₁) := hrun
  rw [deleteProduct_one] at hrun
  have hstore : (serve keyed (removal headers) (Desk.shopWith {} {})).2.store = d₁.store :=
    congrArg Prod.fst hnotes.1
  rw [hstore, ← (Prod.mk.inj hrun).2]
  rfl

end

/-- who may change the catalog removes a product; without a token it is not removed -/
theorem removal_takes_permission :
    (∃ segs p, ("DELETE", segs, p) ∈ guarded ∧ Along segs (removal []).path ∧
      Carries keyed (removal [("Authorization", "Bearer " ++ catalogToken)]) p) ∧
    ∃ response, (serve keyed (removal []) (Desk.shopWith {} {})).1 = .ok response ∧
      response.status = 401 ∧
      Notes (Desk.shopWith {} {}) (serve keyed (removal []) (Desk.shopWith {} {})).2 := by
  have hverified : (Access.verify? keyed.settings.security keyed.present catalogToken).any
      (fun claims => Access.Claims.permit claims [Access.catalogWrite]) = true := by decide +kernel
  have hbearer : bearer? (removal [("Authorization", "Bearer " ++ catalogToken)])
      = some catalogToken := by decide +kernel
  obtain ⟨client, hopen⟩ := exists_require_ok hbearer hverified
  have hnone : bearer? (removal []) = none := by decide +kernel
  have hclosed : require keyed.settings.security keyed.present [Access.catalogWrite] (removal [])
      = _ := require_none hnone
  have hchanged : records (serve keyed (removal [("Authorization", "Bearer " ++ catalogToken)])
      (Desk.shopWith {} {})).2 ≠ records (Desk.shopWith {} {}) := by
    intro h
    have hrecord := congrArg Prod.fst h
    unfold records at hrecord
    rw [serve_removal_ok hopen] at hrecord
    cases hrecord
  obtain ⟨reqId, hreply⟩ := serve_removal_error (Desk.shopWith {} {}) hclosed
  obtain ⟨⟨segs, p, hguarded, hpath, hcarries⟩, -⟩ := (effects_are_permitted _ _ _).1 hchanged
  exact ⟨⟨segs, p, hguarded, hpath, hcarries⟩, _, hreply, rfl,
    (effects_are_permitted _ _ _).2 _ hreply (.inl rfl)⟩

end OrderDesk.Http
