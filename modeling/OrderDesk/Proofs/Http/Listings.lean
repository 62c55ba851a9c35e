import OrderDesk.Proofs.Http.Permission
import OrderDesk.Proofs.Store.Paging
import OrderDesk.Proofs.Time.Stamp

/-!
# What a listing tells

A listing is answered with one page, and tells how many rows and how many pages there are. The rows
before a page are counted by a product and the pages by a sum, both of 64 bits: the number of pages
is right, and a page past the last one is empty, as long as neither of them runs over.

* `Tells`               what a page tells of a number of rows;
* `Cut.tells`           what it tells, and where it goes wrong;
* `Dated`               a row with times that a document takes;
* `Shown`               the document of a page, or nothing if a row of the page is not dated;
* `listOrders_ok`, `listProducts_ok`     the answers of the two handlers;
* `Listable`            when a listing is answered at all;
* `listings_tell`       the whole of it, for every request.
-/

namespace OrderDesk.Http

open Json (Value)
open Store (Database Table OrderRow ItemRow ProductRow Cut withStatus matching valueLimit)

/-! ## pages past the end -/

/-- What the page `k` of `s` rows a page tells of `n` rows. -/
structure Tells (k s n : ℕ) (content : List Value) (pages : Int) : Prop where
  pages : n < 2 ^ 63 → (pages = (n ⌈/⌉ s : ℕ) ↔ n + s ≤ 2 ^ 63)
  nothing : content = [] ↔ n = 0 ∨ (n : Int) ≤ Word.wrap (k * s)
  empty : k * s < 2 ^ 63 → n ⌈/⌉ s ≤ k → content = []

/-- **What a page tells**, and where it goes wrong: after the offset ran over, a page past the end
is one of the pages before it. -/
theorem Cut.tells {α : Type} {p : Page α} {page : PageRequest} {k s n : ℕ} {content : List Value}
    (h : Cut page n p) (hpage : page = ⟨k, s⟩) (hs : 0 < s) (hs' : s < 2 ^ 63)
    (hlength : content.length = p.content.length) : Tells k s n content p.pages := by
  obtain rfl := hpage
  have hsize : p.size = s := h.size
  have hnil : content = [] ↔ n = 0 ∨ (n : Int) ≤ Word.wrap (k * s) := by
    have hcut := h.length
    rw [← List.length_eq_zero_iff, hlength, hcut]
    show min (s : Int).toNat (n - (Word.wrap (k * s)).toNat) = 0 ↔ _
    generalize Word.wrap (k * s) = offset
    omega
  refine ⟨fun hn => Store.pages_eq_iff hs hs' hn hsize h.total, hnil, fun hk hpast => ?_⟩
  have hroom : n ≤ s * k := (ceilDiv_le_iff_le_mul hs).mp hpast
  rw [hnil, show Word.wrap (k * s) = k * s from Store.offset_eq hk]
  rw [Nat.mul_comm] at hroom
  exact .inr (by exact_mod_cast hroom)

/-! ## the handlers -/

section
variable {s : Scope} {d d' : Desk} {a : Answer}

theorem ofFailure_status {e : Failure} (h : Answer.ofFailure s e d = (.ok a, d')) :
    a.status ≠ 200 := by
  unfold Answer.ofFailure at h
  cases hcause : (Answer.deciding? e).bind (Answer.ofCause? e.message) with
  | some a' =>
    rw [hcause] at h
    obtain ⟨c, -, hc⟩ := Option.bind_eq_some_iff.mp hcause
    have hstatus := ofCause?_status hc
    obtain rfl := Outcome.ok.inj (Prod.mk.inj h).1
    omega
  | none =>
    rw [hcause] at h
    obtain ⟨u, d₁, -, hend⟩ := Action.bind_ok_iff.mp h
    obtain rfl := Outcome.ok.inj (Prod.mk.inj hend).1
    nofun

theorem of_ok {α : Type} {x : Action Desk α} {g : α → Answer}
    (h : Answer.of s x g d = (.ok a, d')) (h200 : a.status = 200) :
    ∃ v d₁, x d = (.ok v, d₁) ∧ a = g v := by
  unfold Answer.of at h
  rcases hrun : x d with ⟨o, d₁⟩
  rw [hrun] at h
  cases o with
  | ok v => exact ⟨v, d₁, rfl, (Outcome.ok.inj (Prod.mk.inj h).1).symm⟩
  | failed e => exact absurd h200 (ofFailure_status h)
  | panicked t => cases (Prod.mk.inj h).1

theorem of_apply {α : Type} {x : Action Desk α} {g : α → Answer} {v : α} (h : x d = (.ok v, d')) :
    Answer.of s x g d = (.ok (g v), d') := by
  unfold Answer.of
  rw [h]

def pageDoc (content : List Value) (page : PageRequest) (total pages : Int) : Value :=
  .obj [("content", .arr content), ("page", .int page.number), ("size", .int page.size),
    ("totalElements", .int total), ("totalPages", .int pages)]

theorem allWritten_ok_iff {α : Type} {f : α → Except Unwritable Value} {as : List α}
    {vs : List Value} :
    allWritten f as = .ok vs ↔ List.Forall₂ (fun a v => f a = .ok v) as vs := by
  induction as generalizing vs with
  | nil => simp [allWritten, eq_comm]
  | cons a as ih =>
    rw [List.forall₂_cons_left_iff]
    constructor
    · intro h
      obtain ⟨v, hv, h⟩ := Store.bind_ok_iff.mp h
      obtain ⟨rest, hrest, h⟩ := Store.bind_ok_iff.mp h
      exact ⟨v, rest, hv, ih.mp hrest, (Except.ok.inj h).symm⟩
    · rintro ⟨v, rest, hv, hrest, rfl⟩
      exact Store.bind_ok_iff.mpr ⟨v, hv, Store.bind_ok_iff.mpr ⟨rest, ih.mpr hrest, rfl⟩⟩

theorem exists_allWritten_iff {α : Type} {f : α → Except Unwritable Value} {as : List α} :
    (∃ vs, allWritten f as = .ok vs) ↔ ∀ a ∈ as, ∃ v, f a = .ok v := by
  simp only [allWritten_ok_iff]
  constructor
  · rintro ⟨vs, hvs⟩ a ha
    obtain ⟨v, -, hv⟩ := Store.exists_of_mem_forall₂ hvs.flip ha
    exact ⟨v, hv⟩
  · exact Store.exists_forall₂

/-- what holds two times can be written if both can -/
theorem both_written_iff {α : Type} {created updated : Stamp} {g : String → String → α} :
    (∃ v, (do return g (← created.json) (← updated.json) : Except Unwritable α) = .ok v) ↔
      created.Writable ∧ updated.Writable := by
  constructor
  · rintro ⟨v, h⟩
    obtain ⟨c, hc, h⟩ := Store.bind_ok_iff.mp h
    obtain ⟨u, hu, -⟩ := Store.bind_ok_iff.mp h
    exact ⟨(Stamp.json_ok_iff.mp hc).1, (Stamp.json_ok_iff.mp hu).1⟩
  · rintro ⟨hc, hu⟩
    exact ⟨_, Store.bind_ok_iff.mpr ⟨_, Stamp.json_ok_iff.mpr ⟨hc, rfl⟩,
      Store.bind_ok_iff.mpr ⟨_, Stamp.json_ok_iff.mpr ⟨hu, rfl⟩, rfl⟩⟩⟩

theorem written_ok_iff {s : Summary} :
    (∃ v, s.written = .ok v) ↔ s.createdAt.Writable ∧ s.updatedAt.Writable := both_written_iff

theorem writtenProduct_ok_iff {p : Product} :
    (∃ v, writtenProduct p = .ok v) ↔ p.createdAt.Writable ∧ p.updatedAt.Writable := by
  have htimes : (∃ times, writtenTimes p.createdAt p.updatedAt = .ok times) ↔ _ :=
    both_written_iff
  rw [← htimes]
  constructor
  · rintro ⟨v, h⟩
    obtain ⟨times, h, -⟩ := Store.bind_ok_iff.mp h
    exact ⟨times, h⟩
  · rintro ⟨times, h⟩
    exact ⟨_, Store.bind_ok_iff.mpr ⟨times, h, rfl⟩⟩

/-- a page whose rows can be written is answered with its document -/
theorem written_body {α : Type} {f : α → Except Unwritable Value} {p : Page α}
    {content : List Value} (h : allWritten f p.content = .ok content) :
    (Answer.written 200 (writtenPage f p)).body.getD []
      = Octets.ofText (pageDoc content ⟨p.number, p.size⟩ p.total p.pages).text := by
  unfold writtenPage
  rw [h]
  rfl

/-- The times of a row can be read, and a document takes them. -/
def Dated : Option (Stamp × Stamp) → Prop
  | some (created, updated) => created.Writable ∧ updated.Writable
  | none => False

/-- What a page shows of rows with these times: its document if every row of the page is dated, and
nothing if there is one that is not. -/
structure Shown (k s : ℕ) (times : List (Option (Stamp × Stamp))) (body : Octets) : Prop where
  document : (∀ t ∈ Store.window s (PageRequest.offset ⟨k, s⟩) times, Dated t) →
    ∃ content pages, Tells k s times.length content pages ∧
      body = Octets.ofText (pageDoc content ⟨k, s⟩ times.length pages).text
  nothing : (∃ t ∈ Store.window s (PageRequest.offset ⟨k, s⟩) times, ¬ Dated t) → body = []

theorem Cut.shown {α : Type} {f : α → Except Unwritable Value} {created updated : α → Stamp}
    {p : Page α} {k s : ℕ} {times : List (Option (Stamp × Stamp))}
    (hf : ∀ a, (∃ v, f a = .ok v) ↔ (created a).Writable ∧ (updated a).Writable)
    (h : Cut ⟨k, s⟩ times.length p) (hs : 0 < s) (hs' : s < 2 ^ 63)
    (htimes : Store.window s (PageRequest.offset ⟨k, s⟩) times
      = p.content.map fun a => some (created a, updated a)) :
    Shown k s times ((Answer.written 200 (writtenPage f p)).body.getD []) := by
  have hdated : (∀ t ∈ Store.window s (PageRequest.offset ⟨k, s⟩) times, Dated t) ↔
      ∃ content, allWritten f p.content = .ok content := by
    rw [htimes, List.forall_mem_map, exists_allWritten_iff]
    exact forall₂_congr fun a _ => (hf a).symm
  constructor
  · intro hall
    obtain ⟨content, hwritten⟩ := hdated.mp hall
    have hnumber : p.number = k := h.number
    have hsize : p.size = s := h.size
    have hlength : content.length = p.content.length :=
      (allWritten_ok_iff.mp hwritten).length_eq.symm
    refine ⟨content, p.pages, Cut.tells h rfl hs hs' hlength, ?_⟩
    rw [written_body hwritten, h.total, hnumber, hsize]
  · rintro ⟨t, ht, hundated⟩
    cases hall : allWritten f p.content with
    | error u =>
      unfold writtenPage
      rw [hall]
      rfl
    | ok content => exact absurd (hdated.mpr ⟨content, hall⟩ t ht) hundated

variable {l : Limits} {r : Request} {page : PageRequest} {db : Database}

theorem normalize_bounds (page : PageRequest) {usual greatest : Int} (hu : 1 ≤ usual)
    (hg : usual ≤ greatest) : 0 ≤ (page.normalize usual greatest).number ∧
      1 ≤ (page.normalize usual greatest).size ∧
      (page.normalize usual greatest).size ≤ greatest := by
  unfold PageRequest.normalize
  dsimp only
  refine ⟨?_, ?_, ?_⟩ <;> split_ifs <;> omega

theorem pageOf_bounds (hu : 1 ≤ l.defaultPageSize) (hg : l.defaultPageSize ≤ l.maxPageSize)
    (h : pageOf l r = .ok page) :
    ∃ k s : ℕ, page = ⟨k, s⟩ ∧ 0 < s ∧ (s : Int) ≤ l.maxPageSize := by
  have hbounds : 0 ≤ page.number ∧ 1 ≤ page.size ∧ page.size ≤ l.maxPageSize := by
    unfold pageOf at h
    split at h
    case h_1 => exact Except.ok.inj h ▸ normalize_bounds _ hu hg
    all_goals cases h
  refine ⟨page.number.toNat, page.size.toNat, ?_, by omega, by omega⟩
  rw [Int.toNat_of_nonneg hbounds.1, Int.toNat_of_nonneg (by omega)]

/-- What a listing is about: the orders with a status, or the products with a name, each with the
times of its row. -/
inductive Matching (r : Request) (db : Database) :
    Endpoint → List (Option (Stamp × Stamp)) → Prop
  | orders {status book} (hstatus : statusFilter r = .ok status)
    (hbook : db.tables.orders = some book) :
    Matching r db .listOrders
      ((withStatus (status.map Status.name) book.rows).map OrderRow.times?)
  | products {t rows} (ht : db.tables.products = some t)
    (hmatch : matching (Store.Products.pattern
      (Text.trim (Octets.lossyText (r.queryValue "name")))) t.rows = .ok rows) :
    Matching r db .listProducts (rows.map ProductRow.times?)

theorem listOrders_eq (hpage : pageOf l r = .ok page) : listOrders l s r
    = Answer.of s (Action.ofExcept (statusFilter r) >>= fun filter => Desk.listOrders filter page)
      fun p => .written 200 (writtenPage Summary.written p) := by
  unfold listOrders
  rw [hpage]
  rfl

theorem listProducts_eq (hpage : pageOf l r = .ok page) : listProducts l s r
    = Answer.of s (Desk.listProducts (Octets.lossyText (r.queryValue "name")) page)
      fun p => .written 200 (writtenPage writtenProduct p) := by
  unfold listProducts
  rw [hpage]
  rfl

theorem listOrders_ok {k n : ℕ} (hpage : pageOf l r = .ok ⟨k, n⟩) (hs : d.store = .embedded db)
    (hn : 0 < n) (hn' : n < 2 ^ 63) (h : listOrders l s r d = (.ok a, d')) (h200 : a.status = 200) :
    ∃ times, Matching r db .listOrders times ∧ Shown k n times (a.body.getD []) := by
  rw [listOrders_eq hpage] at h
  obtain ⟨p, d₁, hrun, rfl⟩ := of_ok h h200
  obtain ⟨status, d₂, hfilter, hlist⟩ := Action.bind_ok_iff.mp hrun
  obtain ⟨hstatus, rfl⟩ := Action.ofExcept_ok_iff.mp hfilter
  obtain ⟨found, d₃, hstored, hret⟩ := Action.bind_ok_iff.mp hlist
  obtain rfl := Outcome.ok.inj (Prod.mk.inj hret).1
  obtain ⟨-, b, hfind, -⟩ := Desk.stored_ok_iff.mp hstored
  rw [hs] at hfind
  obtain ⟨book, hbook, hcut, htimes⟩ := Store.Orders.find_cut (Int.natCast_nonneg n) hfind
  rw [← List.length_map OrderRow.times?] at hcut
  have hmapped : Cut ⟨k, n⟩ _ (found.map Order.summary) :=
    ⟨hcut.number, hcut.size, hcut.total, (List.length_map _).trans hcut.length⟩
  refine ⟨_, .orders hstatus hbook, Cut.shown (fun _ => written_ok_iff) hmapped hn hn' ?_⟩
  rw [htimes, Page.map, List.map_map]
  rfl

theorem listProducts_ok {k n : ℕ} (hpage : pageOf l r = .ok ⟨k, n⟩) (hs : d.store = .embedded db)
    (hn : 0 < n) (hn' : n < 2 ^ 63) (h : listProducts l s r d = (.ok a, d'))
    (h200 : a.status = 200) :
    ∃ times, Matching r db .listProducts times ∧ Shown k n times (a.body.getD []) := by
  rw [listProducts_eq hpage] at h
  obtain ⟨p, d₁, hrun, rfl⟩ := of_ok h h200
  obtain ⟨b, hlist, -⟩ := Desk.onStore_eq_iff.mp hrun
  rw [hs] at hlist
  obtain ⟨t, rows, ht, hmatch, hcut, htimes⟩ :=
    Store.Products.list_cut (Int.natCast_nonneg n) hlist
  rw [← List.length_map ProductRow.times?] at hcut
  exact ⟨_, .products ht hmatch,
    Cut.shown (fun _ => writtenProduct_ok_iff) hcut hn hn' htimes⟩

/-! ## when a listing is answered -/

/-- Every row that a listing may have to show can be read. -/
inductive Listable (r : Request) (page : PageRequest) (db : Database) : Endpoint → Prop
  | orders {status book lines} (hstatus : statusFilter r = .ok status)
    (hbook : db.tables.orders = some book) (hlines : db.tables.items = some lines)
    (hunique : (book.rows.map Store.HasId.id).Nodup)
    (hlegible : ∀ row ∈ withStatus (status.map Status.name) book.rows,
      Store.Orders.Legible lines row) (hsize : page.size ≤ valueLimit) :
    Listable r page db .listOrders
  | products {t rows} (ht : db.tables.products = some t)
    (hmatch : matching (Store.Products.pattern
      (Text.trim (Octets.lossyText (r.queryValue "name")))) t.rows = .ok rows)
    (hlegible : ∀ row ∈ rows, row.product?.isSome) : Listable r page db .listProducts

theorem status_written {v : Except Unwritable Value} : (Answer.written 200 v).status = 200 := by
  cases v <;> rfl

theorem Listable.answered {f : Front} {e : Endpoint} {client : Option String} {id : Octets}
    (h : Listable r page db e) (hpage : pageOf f.limits r = .ok page) (hsize : 0 ≤ page.size)
    (hs : d.store = .embedded db) (hclosed : db.closed = false) (hout : d.outages = []) :
    ∃ a d', handleEndpoint f s e client id r d = (.ok a, d') ∧ a.status = 200 := by
  cases h with
  | @orders status book lines hstatus hbook hlines hunique hlegible hroom =>
    obtain ⟨content, hfind, -⟩ :=
      Store.Orders.find_window hclosed hbook hlines hunique hlegible hsize hroom
    rw [← hs] at hfind
    have hstored := Desk.stored_ok_iff (c := .findOrders).mpr ⟨by rw [hout]; rfl, _, hfind, rfl⟩
    have hlist : Desk.listOrders status page d = (.ok (Page.map Order.summary _), d) :=
      Action.bind_of_ok hstored
    have hrun := (Action.bind_of_ok (f := fun filter => Desk.listOrders filter page)
      (Action.ofExcept_ok_iff.mpr ⟨hstatus, rfl⟩)).trans hlist
    have hanswer := of_apply (s := s) (g := fun p => .written 200 (writtenPage Summary.written p))
      hrun
    have hlisting : handleEndpoint f s .listOrders client id r d = _ :=
      (congrFun (listOrders_eq hpage) d).trans hanswer
    exact ⟨_, _, hlisting, status_written⟩
  | @products t rows ht hmatch hlegible =>
    obtain ⟨content, hlist, -⟩ : ∃ content, Store.Products.list _ page (.embedded db) = _ ∧ _ :=
      Store.Products.list_window hclosed ht hmatch hlegible
    rw [← hs] at hlist
    have hrun := Desk.onStore_eq_iff.mpr ⟨_, hlist, rfl⟩
    have hanswer := of_apply (s := s) (g := fun p => .written 200 (writtenPage writtenProduct p))
      hrun
    have hlisting : handleEndpoint f s .listProducts client id r d = _ :=
      (congrFun (listProducts_eq hpage) d).trans hanswer
    exact ⟨_, _, hlisting, status_written⟩

end

/-! ## every request -/

inductive Lists : Octets → Endpoint → Prop
  | orders : Lists (Octets.ofText "/v1/orders") .listOrders
  | products : Lists (Octets.ofText "/v1/products") .listProducts

theorem Lists.endpoint {path : Octets} {e : Endpoint} (h : Lists path e) :
    e = .listOrders ∨ e = .listProducts := by
  cases h with
  | orders => exact .inl rfl
  | products => exact .inr rfl

theorem Lists.route {path : Octets} {e : Endpoint} (h : Lists path e) :
    ∃ rest, resolve "GET" path = .route (.v1 "GET" rest (some Access.ordersRead) e) [] := by
  cases h with
  | orders => exact ⟨[.fixed "orders"], by decide +kernel⟩
  | products => exact ⟨[.fixed "products"], by decide +kernel⟩

section
variable {f : Front} {r : Request} {d : Desk} {response : Response}

/-- a response that all is well is the answer of the handler behind the guard -/
theorem served_ok {rest : List Segment} {p : String} {e : Endpoint} {id : Octets}
    (hroute : resolve r.method r.path = .route (.v1 r.method rest (some p) e) id)
    (hserve : (serve f r d).1 = .ok response) (h200 : response.status = 200) :
    ∃ s t u client a d', handleEndpoint f s e client id r { d with tracer := t, uuids := u }
      = (.ok a, d') ∧ a.status = 200 ∧ response.body = a.body.getD [] := by
  obtain ⟨reqId, s, t, u, o, d₁, hrun, -, hreply⟩ := serve_route f d hroute
  rw [hserve] at hreply
  rcases status_of_reply hreply.symm with h500 | ⟨a, rfl, hstatus⟩
  · omega
  have hok : a.status = 200 := hstatus.symm.trans h200
  obtain rfl := Outcome.ok.inj hreply
  unfold handle at hrun
  dsimp only [Route.v1] at hrun
  cases hclient : require f.settings.security f.present [p] r with
  | error a' =>
    rw [hclient] at hrun
    obtain rfl := Outcome.ok.inj (Prod.mk.inj hrun).1
    rcases turnsAway_of_require hclient with h | h <;> omega
  | ok client =>
    rw [hclient] at hrun
    exact ⟨s, t, u, client, a, d₁, hrun, hok, rfl⟩

variable {page : PageRequest} {db : Database} {e : Endpoint}

/-- **What the listings tell.** Whoever may look gets an answer if the rows can be read. Every answer
is the document of the page, unless a row of the page has a time that no document takes. And in it
the number of pages is right exactly if it is made of a word, and a page past the end is empty while
its offset is a word; beyond that it is empty only by chance. -/
theorem listings_tell (hu : 1 ≤ f.limits.defaultPageSize)
    (hg : f.limits.defaultPageSize ≤ f.limits.maxPageSize) (hw : f.limits.maxPageSize < 2 ^ 63)
    (hget : r.method = "GET") (hlists : Lists r.path e) (hpage : pageOf f.limits r = .ok page)
    (hstore : d.store = .embedded db) :
    (∀ client, require f.settings.security f.present [Access.ordersRead] r = .ok client →
      d.outages = [] → db.closed = false → Listable r page db e →
      ∃ response, (serve f r d).1 = .ok response ∧ response.status = 200) ∧
    ∀ response, (serve f r d).1 = .ok response → response.status = 200 →
      ∃ (k s : ℕ) (times : List (Option (Stamp × Stamp))), page = ⟨k, s⟩ ∧
        Matching r db e times ∧ Shown k s times response.body := by
  obtain ⟨rest, hroute⟩ := hlists.route
  rw [← hget] at hroute
  obtain ⟨k, n, rfl, hn, hn'⟩ := pageOf_bounds hu hg hpage
  have hword : n < 2 ^ 63 := by omega
  refine ⟨fun client hclient hout hclosed hlistable => ?_, fun response hserve h200 => ?_⟩
  · obtain ⟨reqId, s, t, u, o, d₁, hrun, hreply⟩ := serve_permitted (d := d) hroute hclient
    obtain ⟨a, d', hanswer, h200⟩ := hlistable.answered (s := s)
      (d := { d with tracer := t, uuids := u }) hpage (Int.natCast_nonneg n) hstore hclosed hout
    obtain rfl := (Prod.mk.inj (hrun.symm.trans hanswer)).1
    exact ⟨_, hreply, h200⟩
  · obtain ⟨s, t, u, client, a, d', hrun, h200, hbody⟩ := served_ok hroute hserve h200
    rw [hbody]
    rcases hlists.endpoint with rfl | rfl
    · obtain ⟨times, hmatching, hshown⟩ := listOrders_ok
        (d := { d with tracer := t, uuids := u }) hpage hstore hn hword hrun h200
      exact ⟨k, n, times, rfl, hmatching, hshown⟩
    · obtain ⟨times, hmatching, hshown⟩ := listProducts_ok
        (d := { d with tracer := t, uuids := u }) hpage hstore hn hword hrun h200
      exact ⟨k, n, times, rfl, hmatching, hshown⟩

end

/-! ## a page too far -/

/-- a token that lets its holder look -/
def readerToken : String :=
  "eyJhbGciOiJIUzI1NiJ9.eyJwZXJtcyI6WyJvcmRlcnMucmVhZCJdfQ." ++
    "D-_8FR9dkOGFVAg3AzvHzeJk9F1fDYlZdcR2h5DOv08"

def listing (query : String) : Request :=
  ⟨"GET", Octets.ofText "/v1/products", some (Octets.ofText query),
    [("Authorization", "Bearer " ++ readerToken)], []⟩

theorem listing_allowed (query : String) : ∃ client, require keyed.settings.security keyed.present
    [Access.ordersRead] (listing query) = .ok client := by
  have hbearer : bearer? (listing query) = some readerToken := by
    show bearer? (listing "") = _
    decide +kernel
  have hverified : (Access.verify? keyed.settings.security keyed.present readerToken).any
      (fun claims => Access.Claims.permit claims [Access.ordersRead]) = true := by decide +kernel
  exact exists_require_ok hbearer hverified

section
variable {query : String}

theorem pageOf_listing {k n : Int} (hk : queryNumber (listing query) "page" 0 = some k)
    (hn : queryNumber (listing query) "size" 1 = some n) :
    pageOf keyed.limits (listing query) = .ok (PageRequest.normalize ⟨k, n⟩ 20 100) := by
  unfold pageOf
  rw [hk, hn]
  rfl

/-- a listing that asks for no name is about the one product of the shop -/
theorem matching_listing
    (h : Text.trim (Octets.lossyText ((listing query).queryValue "name")) = "") :
    matching (Store.Products.pattern (Text.trim (Octets.lossyText
      ((listing query).queryValue "name")))) Desk.fiveUnits.rows = .ok Desk.fiveUnits.rows := by
  rw [h]
  rfl

end

/-- the page after the only one is empty -/
theorem second_page_is_empty : ∃ response,
    (serve keyed (listing "page=1&size=2") (Desk.shopWith {} {})).1 = .ok response ∧
    response.status = 200 ∧
    response.body = Octets.ofText (pageDoc [] ⟨1, 2⟩ 1 1).text := by
  obtain ⟨client, hclient⟩ := listing_allowed "page=1&size=2"
  have hpage : pageOf keyed.limits (listing "page=1&size=2") = .ok ⟨1, 2⟩ :=
    pageOf_listing (k := 1) (n := 2) (by decide +kernel) (by decide +kernel)
  have hall := matching_listing
    (by decide +kernel : Text.trim (Octets.lossyText
      ((listing "page=1&size=2").queryValue "name")) = "")
  obtain ⟨hanswered, htells⟩ := listings_tell (f := keyed) (d := Desk.shopWith {} {}) (by decide)
    (by decide) (by decide) rfl .products hpage rfl
  obtain ⟨response, hserve, h200⟩ := hanswered client hclient rfl rfl
    (.products rfl hall (by decide +kernel))
  refine ⟨response, hserve, h200, ?_⟩
  obtain ⟨k, s, times, hks, hmatching, hshown⟩ := htells response hserve h200
  obtain ⟨rfl, rfl⟩ : k = 1 ∧ s = 2 := by
    obtain ⟨hk, hs⟩ := PageRequest.mk.inj hks
    omega
  obtain rfl : times = Desk.fiveUnits.rows.map ProductRow.times? := by
    cases hmatching with
    | products ht hmatch =>
      cases ht
      rw [← Except.ok.inj (hall.symm.trans hmatch)]
  -- no row is on the page, so none spoils its document
  obtain ⟨content, pages, htells, hbody⟩ := hshown.document (by
    rw [Store.window_map, show Store.window _ _ Desk.fiveUnits.rows = [] by decide +kernel]
    nofun)
  have hpages : pages = 1 := (htells.pages (by decide)).mpr (by decide)
  rw [hbody, hpages, htells.empty (by decide) (by decide)]
  rfl

/-- the offset of a page far past the end runs over, and the only page is shown in its place -/
theorem far_page_shows_first : ∃ response,
    (serve keyed (listing "page=4611686018427387904&size=2") (Desk.shopWith {} {})).1
      = .ok response ∧ ∃ product, response.body
        = Octets.ofText (pageDoc [product] ⟨4611686018427387904, 2⟩ 1 1).text := by
  obtain ⟨client, hclient⟩ := listing_allowed "page=4611686018427387904&size=2"
  have hpage : pageOf keyed.limits (listing "page=4611686018427387904&size=2")
      = .ok ⟨4611686018427387904, 2⟩ :=
    pageOf_listing (k := 4611686018427387904) (n := 2) (by decide +kernel) (by decide +kernel)
  have hname : Octets.lossyText ((listing "page=4611686018427387904&size=2").queryValue "name")
      = "" := by decide +kernel
  set shown : Page Product := ⟨[⟨1, "A", .ofInt 2, 5, .zero, .zero⟩], 4611686018427387904, 2, 1⟩
    with hshown
  have hlist : ∀ t u, Desk.listProducts "" ⟨4611686018427387904, 2⟩
      { Desk.shopWith {} {} with tracer := t, uuids := u }
        = (.ok shown, { Desk.shopWith {} {} with tracer := t, uuids := u }) := fun _ _ => rfl
  obtain ⟨rest, hroute⟩ := Lists.products.route
  obtain ⟨reqId, s, t, u, o, d₁, hrun, hreply⟩ := serve_permitted (f := keyed)
    (r := listing "page=4611686018427387904&size=2") (d := Desk.shopWith {} {}) hroute hclient
  have hrun : listProducts keyed.limits s (listing "page=4611686018427387904&size=2") _
      = (o, d₁) := hrun
  rw [listProducts_eq hpage, hname, of_apply (hlist t u)] at hrun
  obtain rfl := (Prod.mk.inj hrun).1
  obtain ⟨product, hproduct⟩ :
      ∃ product, writtenProduct ⟨1, "A", .ofInt 2, 5, .zero, .zero⟩ = .ok product := ⟨_, rfl⟩
  have hall : allWritten writtenProduct shown.content = .ok [product] := by
    simp only [hshown, allWritten, hproduct]
    rfl
  have hbody := written_body hall
  rw [show shown.pages = 1 by decide] at hbody
  exact ⟨_, hreply, product, hbody⟩

end OrderDesk.Http
