import OrderDesk.Proofs.Desk.Raising
import OrderDesk.Proofs.Http.Permission
import OrderDesk.Proofs.Json.Places
import OrderDesk.Proofs.Number.Word

/-!
# The two checks of a requested order

The handler of a creation collects all that is wrong with the lines of a request, by field; the desk
checks the lines again and stops at the first fault. What the desk would object to, the handler has
told before.

* `itemField_inj`           a field belongs to one line;
* `Wrong`                   what is wrong with some lines, by field;
* `mem_requestFaults`       the handler finds exactly that, each field once;
* `Agrees`                  how its faults go with the check of the desk;
* `createOrder_invents`     past the handler, no creation fails for the shape of its request;
* `checks_agree`            the whole of it, and what a refused request is told.
-/

namespace OrderDesk.Http

open Desk (ItemRequest OrderRequest itemField itemFault itemsFault checkItems WellFormed Malformed)

/-! ## fields -/

theorem takeWhile_field (i : Nat) (cs : List Char) :
    ((toString i).toList ++ ']' :: cs).takeWhile Char.isDigit = (toString i).toList := by
  have hdigits : ∀ c ∈ (toString i).toList, c.isDigit := by
    rw [Nat.toString_eq_repr, Nat.toList_repr]
    exact Word.digits_isDigit i
  rw [List.takeWhile_append_of_pos hdigits, List.takeWhile_cons_of_neg (by decide), List.append_nil]

/-- a field belongs to one line, and is one of its fields -/
theorem itemField_inj {i j : Nat} {a b : String} : itemField i a = itemField j b ↔ i = j ∧ a = b := by
  refine ⟨fun h => ?_, fun ⟨hi, ha⟩ => by rw [hi, ha]⟩
  have hlist : (toString i).toList ++ ']' :: '.' :: a.toList
      = (toString j).toList ++ ']' :: '.' :: b.toList := by
    have h := congrArg String.toList h
    simp only [itemField, String.toList_append, List.append_assoc] at h
    exact List.append_cancel_left h
  have hindex : (toString i).toList = (toString j).toList := by
    rw [← takeWhile_field i, hlist, takeWhile_field j]
  have hij : (i : Int) = j := Word.toString_inj.mp (String.toList_injective hindex)
  rw [hindex] at hlist
  have hrest := List.append_cancel_left hlist
  refine ⟨by omega, String.toList_injective ?_⟩
  exact (List.cons.inj (List.cons.inj hrest).2).2

theorem itemField_ne_items (i : Nat) (name : String) : itemField i name ≠ "items" := by
  intro h
  have hlength := congrArg (fun s => s.toList.length) h
  simp [itemField] at hlength

/-- What is wrong with some lines of which each may ask for `m` units at most, by field. -/
inductive Wrong (m : Int) (items : List ItemRequest) : String → Reason → Prop
  | empty (h : items = []) : Wrong m items "items" .empty
  | product {i : Nat} {it : ItemRequest} (hi : items[i]? = some it) (h : it.productId ≤ 0) :
    Wrong m items (itemField i "productId") .required
  | below {i : Nat} {it : ItemRequest} (hi : items[i]? = some it) (h : it.quantity < 1) :
    Wrong m items (itemField i "quantity") .belowOne
  | above {i : Nat} {it : ItemRequest} (hi : items[i]? = some it) (h : m < it.quantity) :
    Wrong m items (itemField i "quantity") (.above m)

section
variable {m : Int} {items : List ItemRequest} {i : Nat} {it : ItemRequest} {field : String}
  {why : Reason}

theorem Wrong.place (h : Wrong m items field why) : (field = "items" ∧ items = []) ∨
    ∃ i it, items[i]? = some it ∧ (field = itemField i "productId" ∧ it.productId ≤ 0 ∨
      field = itemField i "quantity" ∧ (it.quantity < 1 ∨ m < it.quantity)) := by
  cases h with
  | empty h => exact .inl ⟨rfl, h⟩
  | product hi h => exact .inr ⟨_, _, hi, .inl ⟨rfl, h⟩⟩
  | below hi h => exact .inr ⟨_, _, hi, .inr ⟨rfl, .inl h⟩⟩
  | above hi h => exact .inr ⟨_, _, hi, .inr ⟨rfl, .inr h⟩⟩

theorem wrong_empty_iff : (∃ why, Wrong m items "items" why) ↔ items = [] := by
  refine ⟨fun ⟨why, h⟩ => ?_, fun h => ⟨_, .empty h⟩⟩
  rcases h.place with ⟨-, h⟩ | ⟨j, it, -, ⟨h, -⟩ | ⟨h, -⟩⟩
  · exact h
  · exact absurd h.symm (itemField_ne_items _ _)
  · exact absurd h.symm (itemField_ne_items _ _)

theorem wrong_product_iff : (∃ why, Wrong m items (itemField i "productId") why) ↔
    ∃ it, items[i]? = some it ∧ it.productId ≤ 0 := by
  refine ⟨fun ⟨why, h⟩ => ?_, fun ⟨it, hi, h⟩ => ⟨_, .product hi h⟩⟩
  rcases h.place with ⟨h, -⟩ | ⟨j, it, hj, ⟨h, hid⟩ | ⟨h, -⟩⟩
  · exact absurd h (itemField_ne_items _ _)
  · obtain ⟨rfl, -⟩ := itemField_inj.mp h
    exact ⟨it, hj, hid⟩
  · exact absurd (itemField_inj.mp h).2 (by decide)

theorem wrong_quantity_iff : (∃ why, Wrong m items (itemField i "quantity") why) ↔
    ∃ it, items[i]? = some it ∧ (it.quantity < 1 ∨ m < it.quantity) := by
  refine ⟨fun ⟨why, h⟩ => ?_, ?_⟩
  · rcases h.place with ⟨h, -⟩ | ⟨j, it, hj, ⟨h, -⟩ | ⟨h, hq⟩⟩
    · exact absurd h (itemField_ne_items _ _)
    · exact absurd (itemField_inj.mp h).2 (by decide)
    · obtain ⟨rfl, -⟩ := itemField_inj.mp h
      exact ⟨it, hj, hq⟩
  · rintro ⟨it, hi, h | h⟩
    · exact ⟨_, .below hi h⟩
    · exact ⟨_, .above hi h⟩

/-! ## all faults -/

theorem mem_itemFaults (hm : 1 ≤ m) : (field, why) ∈ itemFaults m i it ↔
    (it.productId ≤ 0 ∧ field = itemField i "productId" ∧ why = .required) ∨
    (it.quantity < 1 ∧ field = itemField i "quantity" ∧ why = .belowOne) ∨
      m < it.quantity ∧ field = itemField i "quantity" ∧ why = .above m := by
  unfold itemFaults
  rw [List.mem_append]
  refine or_congr ?_ ?_
  · by_cases hid : it.productId ≤ 0 <;> simp [hid]
  · by_cases hbelow : it.quantity < 1
    · have habove : ¬ m < it.quantity := by omega
      simp [hbelow, habove]
    · have hpositive : 0 < m := by omega
      by_cases habove : m < it.quantity <;> simp [hbelow, habove, hpositive]

theorem mem_itemsFaults : (field, why) ∈ itemsFaults m i items ↔
    ∃ j it, items[j]? = some it ∧ (field, why) ∈ itemFaults m (i + j) it := by
  induction items generalizing i with
  | nil => simp [itemsFaults]
  | cons x items ih =>
    rw [itemsFaults, List.mem_append, ih]
    constructor
    · rintro (hx | ⟨j, it, hj, hit⟩)
      · exact ⟨0, x, rfl, hx⟩
      · exact ⟨j + 1, it, hj, by rwa [show i + (j + 1) = i + 1 + j by omega]⟩
    · rintro ⟨_ | j, it, hj, hit⟩
      · rw [Option.some.inj hj]
        exact .inl hit
      · exact .inr ⟨j, it, hj, by rwa [show i + 1 + j = i + (j + 1) by omega]⟩

/-- **The faults of a request** are what is wrong with its lines. -/
theorem mem_requestFaults (hm : 1 ≤ m) :
    (field, why) ∈ requestFaults m items ↔ Wrong m items field why := by
  unfold requestFaults
  cases items with
  | nil =>
    refine ⟨fun h => ?_, fun h => ?_⟩
    · obtain ⟨rfl, rfl⟩ := Prod.mk.inj (List.mem_singleton.mp h)
      exact .empty rfl
    · cases h with
      | empty h => exact List.mem_singleton_self _
      | product hi | below hi | above hi => cases hi
  | cons x items =>
    rw [if_neg (by simp), mem_itemsFaults]
    simp only [Nat.zero_add, mem_itemFaults hm]
    constructor
    · rintro ⟨j, it, hj, ⟨h, rfl, rfl⟩ | ⟨h, rfl, rfl⟩ | ⟨h, rfl, rfl⟩⟩
      · exact .product hj h
      · exact .below hj h
      · exact .above hj h
    · rintro (h | ⟨hi, h⟩ | ⟨hi, h⟩ | ⟨hi, h⟩)
      · cases h
      · exact ⟨_, _, hi, .inl ⟨h, rfl, rfl⟩⟩
      · exact ⟨_, _, hi, .inr (.inl ⟨h, rfl, rfl⟩)⟩
      · exact ⟨_, _, hi, .inr (.inr ⟨h, rfl, rfl⟩)⟩

theorem fields_itemFaults : List.Sublist ((itemFaults m i it).map Prod.fst)
    ([itemField i "productId"] ++ [itemField i "quantity"]) := by
  unfold itemFaults
  rw [List.map_append]
  refine List.Sublist.append ?_ ?_
  · split <;> simp
  · repeat' split
    all_goals simp

theorem field_itemFaults {k : String} (h : k ∈ (itemFaults m i it).map Prod.fst) :
    ∃ name, k = itemField i name := by
  rcases List.mem_append.mp (fields_itemFaults.subset h) with h | h
  · exact ⟨_, List.mem_singleton.mp h⟩
  · exact ⟨_, List.mem_singleton.mp h⟩

theorem nodup_itemsFaults : ((itemsFaults m i items).map Prod.fst).Nodup := by
  induction items generalizing i with
  | nil => exact List.nodup_nil
  | cons x items ih =>
    have hone : ((itemFaults m i x).map Prod.fst).Nodup := by
      refine fields_itemFaults.nodup ?_
      simp [itemField_inj]
    rw [itemsFaults, List.map_append]
    refine hone.append ih fun k hk hrest => ?_
    obtain ⟨⟨_, why⟩, hmem, rfl⟩ := List.mem_map.mp hrest
    obtain ⟨j, it, -, hit⟩ := mem_itemsFaults.mp hmem
    obtain ⟨a, hfirst⟩ := field_itemFaults hk
    obtain ⟨b, hlater⟩ := field_itemFaults (List.mem_map_of_mem hit)
    have hindex := (itemField_inj.mp (hfirst.symm.trans hlater)).1
    omega

/-- every field is told once -/
theorem nodup_requestFaults : ((requestFaults m items).map Prod.fst).Nodup := by
  unfold requestFaults
  split
  · exact List.nodup_singleton _
  · exact nodup_itemsFaults

/-! ## the check of the desk -/

/-- what is wrong first with a request is wrong with its lines -/
theorem wrong_of_malformed {c : Cause} (h : Malformed items c) :
    ∃ field why, c = .validation field why ∧ Wrong m items field why := by
  have hnext : ∀ (pre : List ItemRequest) it post, (pre ++ it :: post)[pre.length]? = some it := by
    simp
  cases h with
  | empty h => exact ⟨_, _, rfl, .empty h⟩
  | product pre it post he _ hid => exact ⟨_, _, rfl, .product (he ▸ hnext pre it post) hid⟩
  | quantity pre it post he _ _ hq => exact ⟨_, _, rfl, .below (he ▸ hnext pre it post) hq⟩

theorem not_wellFormed {c : Cause} (h : Malformed items c) : ¬ WellFormed items := by
  rintro ⟨hne, hwell⟩
  cases h with
  | empty h => exact hne h
  | product pre it post he _ hid =>
    have := (hwell it (by rw [he]; simp)).1
    omega
  | quantity pre it post he _ _ hq =>
    have := (hwell it (by rw [he]; simp)).2
    omega

/-- How the faults of the handler go with the check of the desk. -/
structure Agrees (m : Int) (items : List ItemRequest) : Prop where
  once : ((requestFaults m items).map Prod.fst).Nodup
  fault_iff : ∀ field why, (field, why) ∈ requestFaults m items ↔ Wrong m items field why
  none_iff : requestFaults m items = [] ↔
    checkItems items = .ok () ∧ ∀ it ∈ items, it.quantity ≤ m
  first : ∀ e, checkItems items = .error e → ∃ field why,
    e = .cause (.validation field why) ∧ (requestFaults m items).lookup field = some why
  empty_iff : "items" ∈ (requestFaults m items).map Prod.fst ↔ items = []
  product_iff : ∀ i, itemField i "productId" ∈ (requestFaults m items).map Prod.fst ↔
    ∃ it, items[i]? = some it ∧ it.productId ≤ 0
  quantity_iff : ∀ i, itemField i "quantity" ∈ (requestFaults m items).map Prod.fst ↔
    ∃ it, items[i]? = some it ∧ (it.quantity < 1 ∨ m < it.quantity)

/-- without faults a request is well formed, and asks for no more than it may -/
theorem requestFaults_eq_nil_iff (hm : 1 ≤ m) :
    requestFaults m items = [] ↔ WellFormed items ∧ ∀ it ∈ items, it.quantity ≤ m := by
  have hnone : requestFaults m items = [] ↔ ∀ field why, ¬ Wrong m items field why := by
    simp only [List.eq_nil_iff_forall_not_mem, Prod.forall, mem_requestFaults hm]
  rw [hnone]
  constructor
  · intro h
    refine ⟨⟨fun he => h _ _ (.empty he), fun it hit => ?_⟩, fun it hit => ?_⟩
    · obtain ⟨i, hi⟩ := List.mem_iff_getElem?.mp hit
      have hproduct : ¬ it.productId ≤ 0 := fun hid => h _ _ (.product hi hid)
      have hbelow : ¬ it.quantity < 1 := fun hq => h _ _ (.below hi hq)
      exact ⟨by omega, by omega⟩
    · obtain ⟨i, hi⟩ := List.mem_iff_getElem?.mp hit
      have habove : ¬ m < it.quantity := fun hq => h _ _ (.above hi hq)
      omega
  · rintro ⟨⟨hne, hwell⟩, hmost⟩ field why (h | ⟨hi, h⟩ | ⟨hi, h⟩ | ⟨hi, h⟩)
    · exact hne h
    · have := (hwell _ (List.mem_of_getElem? hi)).1
      omega
    · have := (hwell _ (List.mem_of_getElem? hi)).2
      omega
    · have := hmost _ (List.mem_of_getElem? hi)
      omega

theorem field_mem_iff (hm : 1 ≤ m) : field ∈ (requestFaults m items).map Prod.fst ↔
    ∃ why, Wrong m items field why := by
  simp only [List.mem_map, Prod.exists, exists_and_right, exists_eq_right, mem_requestFaults hm]

theorem agrees (hm : 1 ≤ m) : Agrees m items where
  once := nodup_requestFaults
  fault_iff _ _ := mem_requestFaults hm
  none_iff := by
    rw [requestFaults_eq_nil_iff hm]
    rcases Desk.checkItems_ends items with ⟨hok, hwell⟩ | ⟨c, -, herror, hnot⟩
    · simp [hok, hwell]
    · simp [herror, hnot]
  first e he := by
    rcases Desk.checkItems_ends items with ⟨hok, -⟩ | ⟨c, hbad, herror, -⟩
    · rw [hok] at he
      cases he
    · obtain rfl := Except.error.inj (herror.symm.trans he)
      obtain ⟨field, why, rfl, hwrong⟩ := wrong_of_malformed (m := m) hbad
      have hmem := (mem_requestFaults hm).mpr hwrong
      exact ⟨field, why, rfl, Json.lookup_of_mem nodup_requestFaults hmem⟩
  empty_iff := (field_mem_iff hm).trans wrong_empty_iff
  product_iff _ := (field_mem_iff hm).trans wrong_product_iff
  quantity_iff _ := (field_mem_iff hm).trans wrong_quantity_iff

/-! ## what a creation fails for -/

/-- A collaborator that is out of order fails for a cause. -/
def MadeUp (d : Desk) (c : Cause) : Prop :=
  ∃ call e, d.outages.lookup call = some (.fails e) ∧ c ∈ e.causes

variable {d d' : Desk} {s : Scope}

/-- whatever a collaborator makes up, no step of a creation fails for the shape of a request -/
theorem creationClass_shaped (d : Desk) :
    Cause.CreationClass fun c => c.kind ≠ .validation ∨ MadeUp d c where
  plain _ := .inl nofun
  noRows := .inl nofun
  missing _ _ := .inl nofun
  short _ _ _ _ := .inl nofun
  above _ _ := .inl nofun
  duplicate := .inl nofun

/-- **Past the handler, no creation fails for the shape of its request**, unless a collaborator makes
such a failure up. -/
theorem createOrder_invents (hm : 1 ≤ m) (hnone : requestFaults m items = []) {client key : String}
    {e : Failure} (h : Desk.createOrder s ⟨client, key, items⟩ d = (.failed e, d')) {c : Cause}
    (hc : c ∈ e.causes) (hkind : c.kind = .validation) : MadeUp d c := by
  have hwell : WellFormed items := ((requestFaults_eq_nil_iff hm).mp hnone).1
  have hreliable : Desk.Reliable (fun c => c.kind ≠ .validation ∨ MadeUp d c) d :=
    fun call e hout c hc => .inr ⟨call, e, hout, hc⟩
  have honly := Desk.createOrder_raises (creationClass_shaped d)
    (fun c hbad => absurd hwell (not_wellFormed hbad)) hreliable h
  exact (honly c hc).resolve_left fun hne => hne hkind

/-! ## what a client is told -/

/-- What a client is told whose request is refused as it stands. -/
inductive Told (m : Int) (r : Request) (body : Octets) : Prop
  | unread (h : requestedItems? r = none) (hbody : body = Answer.malformed.body.getD [])
  | faults {items : List ItemRequest} (h : requestedItems? r = some items)
    (hfaults : requestFaults m items ≠ [])
    (hbody : body = (Answer.invalid (requestFaults m items)).body.getD [])

theorem ofFailure_shaped (e : Failure) : ∃ a d', Answer.ofFailure s e d = (.ok a, d') ∧
    (a.status = 400 → ∃ c ∈ e.causes, c.kind = .validation) := by
  unfold Answer.ofFailure
  cases hcause : (Answer.deciding? e).bind (Answer.ofCause? e.message) with
  | none => exact ⟨_, _, rfl, nofun⟩
  | some a =>
    obtain ⟨c, hdecides, htold⟩ := Option.bind_eq_some_iff.mp hcause
    obtain ⟨k, -, hfind⟩ := List.exists_of_findSome?_eq_some hdecides
    refine ⟨a, d, rfl, fun h400 => ⟨c, List.mem_of_find?_eq_some hfind, ?_⟩⟩
    cases c with
    | validation field why => rfl
    | _ => cases htold <;> cases h400

theorem status_created {v : Except Unwritable Json.Value} {location : String} :
    ((Answer.written 201 v).withHeader "Location" location).status = 201 := by
  cases v <;> rfl

variable {l : Limits} {client : Option String} {r : Request}

/-- the handler of a creation answers, and refuses for what it found itself -/
theorem createOrder_told (hm : 1 ≤ l.maxItemQuantity) {o : Outcome Answer}
    (h : createOrder l s client r d = (o, d')) : ∃ a, mended o = .ok a ∧
      (a.status = 400 → Told l.maxItemQuantity r (a.body.getD []) ∨
        ∃ c, c.kind = .validation ∧ MadeUp d c) := by
  unfold createOrder at h
  cases hread : requestedItems? r with
  | none =>
    rw [hread] at h
    obtain rfl := (Prod.mk.inj h).1
    exact ⟨_, rfl, fun _ => .inl (.unread hread rfl)⟩
  | some items =>
    rw [hread] at h
    dsimp only at h
    cases hfaults : requestFaults l.maxItemQuantity items with
    | cons fault faults =>
      rw [hfaults] at h
      obtain rfl := (Prod.mk.inj h).1
      have hne : requestFaults l.maxItemQuantity items ≠ [] := by simp [hfaults]
      exact ⟨_, rfl, fun _ => .inl (.faults hread hne (by rw [hfaults]))⟩
    | nil =>
      rw [hfaults] at h
      dsimp only at h
      unfold Answer.of at h
      rcases hrun : Desk.createOrder s ⟨client.getD "", r.header "X-Idempotency-Key", items⟩ d with
        ⟨o₁, d₁⟩
      rw [hrun] at h
      cases o₁ with
      | ok v =>
        obtain rfl := (Prod.mk.inj h).1
        refine ⟨_, rfl, fun h400 => ?_⟩
        rw [status_created] at h400
        cases h400
      | failed e =>
        obtain ⟨a, d₂, hanswer, hshaped⟩ := ofFailure_shaped (d := d₁) (s := s) e
        obtain rfl := (Prod.mk.inj (h.symm.trans hanswer)).1
        refine ⟨a, rfl, fun h400 => ?_⟩
        obtain ⟨c, hc, hkind⟩ := hshaped h400
        exact .inr ⟨c, hkind, createOrder_invents hm hfaults hrun hc hkind⟩
      | panicked t =>
        obtain rfl := (Prod.mk.inj h).1
        exact ⟨_, rfl, nofun⟩

end

/-! ## the whole of it -/

/-- a request to create an order -/
structure Creates (r : Request) : Prop where
  method : r.method = "POST"
  path : r.path = Octets.ofText "/v1/orders"

/-- **The two checks of a requested order agree**: for any lines, the handler finds all that is
wrong, each fault under the field of its line, and the desk stops at one of them. So no request is
refused for a fault that only the desk found: past the handler no creation fails for the shape of
its request, unless a collaborator makes such a failure up. -/
theorem checks_agree {f : Front} (hm : 1 ≤ f.limits.maxItemQuantity) :
    (∀ items, Agrees f.limits.maxItemQuantity items) ∧
    (∀ items, requestFaults f.limits.maxItemQuantity items = [] →
      ∀ s client key d e d', Desk.createOrder s ⟨client, key, items⟩ d = (.failed e, d') →
        ∀ c ∈ e.causes, c.kind = .validation → MadeUp d c) ∧
    ∀ r d, Creates r → ∃ response, (serve f r d).1 = .ok response ∧
      (response.status = 400 → Told f.limits.maxItemQuantity r response.body ∨
        ∃ c, c.kind = .validation ∧ MadeUp d c) := by
  refine ⟨fun items => agrees hm, fun items hnone s client key d e d' h c hc hkind =>
    createOrder_invents hm hnone h hc hkind, fun r d hr => ?_⟩
  have hroute : resolve r.method r.path
      = .route (.v1 "POST" [.fixed "orders"] (some Access.ordersWrite) .createOrder) [] := by
    rw [hr.method, hr.path]
    decide +kernel
  obtain ⟨reqId, s, t, u, o, d₁, hrun, -, hreply⟩ := serve_route f d hroute
  unfold handle at hrun
  dsimp only [Route.v1] at hrun
  cases hclient : require f.settings.security f.present [Access.ordersWrite] r with
  | error a =>
    rw [hclient] at hrun
    obtain rfl := (Prod.mk.inj hrun).1
    refine ⟨_, hreply, fun h400 => ?_⟩
    have h400 : a.status = 400 := h400
    rcases turnsAway_of_require hclient with h | h <;> omega
  | ok client =>
    rw [hclient] at hrun
    have hrun : createOrder f.limits s client r { d with tracer := t, uuids := u } = (o, d₁) := hrun
    obtain ⟨a, hend, htold⟩ := createOrder_told hm hrun
    rw [hend] at hreply
    exact ⟨_, hreply, htold⟩

/-! ## two bad lines -/

/-- a service with a key of one letter, where a line may ask for three units -/
def bounded : Front where
  settings := { security := { jwtSecret := "k" } }
  limits := ⟨3, 20, 100⟩
  present := 0

/-- a token that lets its holder order -/
def buyerToken : String :=
  "eyJhbGciOiJIUzI1NiJ9.eyJwZXJtcyI6WyJvcmRlcnMud3JpdGUiXX0." ++
    "3kw2foTaJ1-KJeSCNg6DaPhXpLdKFsW43eRaJKeUdaQ"

/-- a request for nothing of no product, and for too much of another -/
def greedy : Request :=
  ⟨"POST", Octets.ofText "/v1/orders", none, [("Authorization", "Bearer " ++ buyerToken)],
    Octets.ofText "\x7b\"items\":[\x7b\x7d,\x7b\"productId\":1,\"quantity\":5\x7d]\x7d"⟩

theorem requestedItems?_greedy : requestedItems? greedy = some [⟨0, 0⟩, ⟨1, 5⟩] := by decide +kernel

/-- all three faults are told, and the desk would have stopped at the first -/
theorem greedy_told : 1 ≤ bounded.limits.maxItemQuantity ∧ Creates greedy ∧ ∃ response,
    (serve bounded greedy (Desk.shopWith {} {})).1 = .ok response ∧ response.status = 400 ∧
    Told 3 greedy response.body ∧ Agrees 3 [⟨0, 0⟩, ⟨1, 5⟩] ∧
    requestFaults 3 [⟨0, 0⟩, ⟨1, 5⟩] = [("items[0].productId", .required),
      ("items[0].quantity", .belowOne), ("items[1].quantity", .above 3)] := by
  have hcreates : Creates greedy := ⟨rfl, rfl⟩
  have hbearer : bearer? greedy = some buyerToken := by decide +kernel
  have hverified : (Access.verify? bounded.settings.security bounded.present buyerToken).any
      (fun claims => Access.Claims.permit claims [Access.ordersWrite]) = true := by decide +kernel
  obtain ⟨client, hclient⟩ := exists_require_ok hbearer hverified
  have hroute : resolve greedy.method greedy.path
      = .route (.v1 "POST" [.fixed "orders"] (some Access.ordersWrite) .createOrder) [] := by
    decide +kernel
  obtain ⟨reqId, s, t, u, o, d₁, hrun, hreply⟩ := serve_permitted (d := Desk.shopWith {} {}) hroute
    hclient
  have hrefused : handleEndpoint bounded s .createOrder client [] greedy
      { Desk.shopWith {} {} with tracer := t, uuids := u }
        = (.ok (.invalid (requestFaults 3 [⟨0, 0⟩, ⟨1, 5⟩])),
          { Desk.shopWith {} {} with tracer := t, uuids := u }) := by
    show createOrder bounded.limits s _ greedy _ = _
    unfold createOrder
    rw [requestedItems?_greedy]
    rfl
  obtain rfl := (Prod.mk.inj (hrun.symm.trans hrefused)).1
  obtain ⟨hagrees, -, htold⟩ := checks_agree (f := bounded) (by decide)
  obtain ⟨response, hresponse, hshaped⟩ := htold greedy (Desk.shopWith {} {}) hcreates
  obtain rfl := Outcome.ok.inj (hreply.symm.trans hresponse)
  refine ⟨by decide, hcreates, _, hresponse, rfl, ?_, hagrees _, by decide +kernel⟩
  exact (hshaped rfl).resolve_right fun ⟨c, _, call, e, hout, _⟩ => nomatch hout

end OrderDesk.Http
