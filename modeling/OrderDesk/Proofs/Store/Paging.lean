import OrderDesk.Proofs.Store.Ascending
import OrderDesk.Proofs.Store.Finding
import Mathlib.Algebra.Order.Floor.Div

/-!
# Pages that partition a listing

A page is a window of the rows that match, and the windows from the first one to the last one are
those rows again. What has to agree are four computations: how many rows match, which of them are
on a page, how many rows lie before it, and how many pages there are.

* `windows_flatten`       the windows of a list, one after another;
* `offset_eq`, `pages_eq`     what the two computations on words come to;
* `Partition`             pages that show every row once;
* `partition_of_windows`      pages that are windows do;
* `Orders.find_window`, `Products.list_window`      the pages of the two listings are windows;
* `Products.list_ok_iff`      when a page of products is read, and what it then shows;
* `Orders.legible_of_find`, `Products.legible_of_list`      what a page that is read says of rows;
* `Cut`                   how long a page is, whatever rows it is made of;
* `Orders.find_cut`, `Products.list_cut`     it is that long, and has the times of its rows;
* `pages_partition`       both listings are partitioned by their pages.
-/

namespace OrderDesk.Store

/-! ## windows -/

section
variable {α : Type}

theorem length_window {size : Int} (h : 0 ≤ size) (offset : Int) (rows : List α) :
    (window size offset rows).length = min size.toNat (rows.length - offset.toNat) := by
  unfold window
  rw [if_neg (by omega), List.length_take, List.length_drop]

theorem window_map {β : Type} (f : α → β) (size offset : Int) (rows : List α) :
    window size offset (rows.map f) = (window size offset rows).map f := by
  unfold window
  dsimp only
  rw [← List.map_drop]
  split
  · rfl
  · exact List.map_take.symm

theorem window_eq (rows : List α) (s k : ℕ) :
    window s (k * s) rows = (rows.drop (k * s)).take s := by
  have hoffset : ((k : Int) * s).toNat = k * s := by
    rw [← Int.natCast_mul]
    exact Int.toNat_natCast _
  unfold window
  rw [if_neg (by omega), hoffset]
  rfl

theorem windows_flatten (rows : List α) (s n : ℕ) :
    (List.range n).flatMap (fun k : ℕ => window s (k * s) rows) = rows.take (n * s) := by
  induction n with
  | zero => rw [Nat.zero_mul]; rfl
  | succ n ih =>
    rw [List.range_succ, List.flatMap_append, ih, List.flatMap_singleton, window_eq,
      Nat.succ_mul, List.take_add]

theorem length_window_full {rows : List α} {s k n : ℕ} (hs : 0 < s) (hn : rows.length ⌈/⌉ s = n)
    (hk : k + 1 < n) : (window s (k * s) rows).length = s := by
  have hlt : (k + 1) * s < rows.length := by
    by_contra hle
    have hceil : rows.length ⌈/⌉ s ≤ k + 1 :=
      (ceilDiv_le_iff_le_mul hs).mpr (by rw [Nat.mul_comm]; omega)
    omega
  rw [Nat.succ_mul] at hlt
  rw [window_eq, List.length_take, List.length_drop]
  omega

end

/-! ## words -/

theorem offset_eq {k s : ℕ} (h : k * s < 2 ^ 63) : PageRequest.offset ⟨k, s⟩ = k * s := by
  have hpow : Int.pow 2 63 = 9223372036854775808 := rfl
  unfold PageRequest.offset
  rw [← Int.natCast_mul]
  exact Word.wrap_of_inRange ⟨by omega, by omega⟩

/-- the number of pages is the least that has room for all rows -/
theorem pages_eq {α : Type} {p : Page α} {n s : ℕ} (hs : 0 < s) (hsize : p.size = s)
    (htotal : p.total = n) (h : n + s - 1 < 2 ^ 63) : p.pages = (n ⌈/⌉ s : ℕ) := by
  have hpow : Int.pow 2 63 = 9223372036854775808 := rfl
  have hsum : (n : Int) + s - 1 = (n + s - 1 : ℕ) := by omega
  have hle : (n + s - 1) / s ≤ n + s - 1 := Nat.div_le_self ..
  have hwide : ∀ {m : ℕ}, m < 2 ^ 63 → Word.wrap m = m := fun hm =>
    Word.wrap_of_inRange ⟨by omega, by omega⟩
  unfold Page.pages
  rw [hsize, htotal, if_neg (by omega), hsum, hwide h, Int.tdiv_eq_ediv_of_nonneg (by omega),
    ← Int.natCast_ediv, hwide (by omega), Nat.ceilDiv_eq_add_pred_div]

theorem wrap_of_above {n : Int} (h : 2 ^ 63 ≤ n) (h' : n < 2 ^ 64) : Word.wrap n = n - 2 ^ 64 := by
  have hwords : Nat.pow 2 64 = 18446744073709551616 := rfl
  unfold Word.wrap
  rw [Int.bmod_def, hwords]
  omega

/-- **The number of pages is right** as long as the sum that it is made of is a word; beyond that
it is not positive. -/
theorem pages_eq_iff {α : Type} {p : Page α} {n s : ℕ} (hs : 0 < s) (hs' : s < 2 ^ 63)
    (hn : n < 2 ^ 63) (hsize : p.size = s) (htotal : p.total = n) :
    p.pages = (n ⌈/⌉ s : ℕ) ↔ n + s ≤ 2 ^ 63 := by
  refine ⟨fun h => ?_, fun h => pages_eq hs hsize htotal (by omega)⟩
  by_contra hover
  have hpow : Int.pow 2 63 = 9223372036854775808 := rfl
  obtain ⟨m, hm⟩ : ∃ m : ℕ, n + s - 1 + m = 2 ^ 64 := ⟨2 ^ 64 - (n + s - 1), by omega⟩
  have hwrap : Word.wrap ((n : Int) + s - 1) = -m := by
    rw [wrap_of_above (by omega) (by omega)]
    omega
  obtain ⟨q, hq⟩ : ∃ q, m / s = q := ⟨_, rfl⟩
  have hle : q ≤ m := hq ▸ Nat.div_le_self m s
  have hpages : p.pages = -(q : Int) := by
    unfold Page.pages
    rw [hsize, htotal, if_neg (by omega), hwrap, Int.neg_tdiv,
      Int.tdiv_eq_ediv_of_nonneg (by omega), ← Int.natCast_ediv, hq]
    exact Word.wrap_of_inRange ⟨by omega, by omega⟩
  have hnone : n ⌈/⌉ s = 0 := by omega
  have hroom : n ≤ s * (n ⌈/⌉ s) := (ceilDiv_le_iff_le_mul hs).mp le_rfl
  rw [hnone] at hroom
  omega

/-! ## pages that are windows -/

section
variable {ρ α : Type}

/-- Pages of `s` rows, from the first one to the one after the `n`-th, each of which is read from
the store. Together the first `n` pages show every row once and nothing else, by ascending id. Each
page tells how many rows there are and how many pages, and all but the last one are full. -/
structure Partition (list : PageRequest → Action Backend (Page α)) (b : Backend) (s : ℕ)
    (rows : List ρ) (Shows : ρ → α → Prop) (id : α → Int) (n : ℕ) (page : ℕ → Page α) : Prop where
  read : ∀ k ≤ n, list ⟨k, s⟩ b = (.ok (page k), b)
  total : ∀ k ≤ n, (page k).total = rows.length
  pages : ∀ k ≤ n, (page k).pages = n
  every : List.Forall₂ Shows rows ((List.range n).flatMap fun k => (page k).content)
  ascending : (((List.range n).flatMap fun k => (page k).content).map id).Pairwise (· < ·)
  full : ∀ k, k + 1 < n → (page k).content.length = s

/-- windows up to the last row show every row once -/
theorem windows_show {rows : List ρ} {Shows : ρ → α → Prop} {content : ℕ → List α} {s : ℕ}
    (hs : 1 ≤ s) (hrows : rows.length < 2 ^ 63) (hcontent : ∀ k, k * s < rows.length →
      List.Forall₂ Shows (window s (PageRequest.offset ⟨k, s⟩) rows) (content k)) :
    List.Forall₂ Shows rows ((List.range (rows.length ⌈/⌉ s)).flatMap content) := by
  have hroom : rows.length ≤ rows.length ⌈/⌉ s * s := by
    rw [Nat.mul_comm]
    exact (ceilDiv_le_iff_le_mul hs).mp le_rfl
  have hbefore : ∀ k < rows.length ⌈/⌉ s, k * s < rows.length := fun k hk => by
    by_contra hle
    have hceil : rows.length ⌈/⌉ s ≤ k :=
      (ceilDiv_le_iff_le_mul hs).mpr (by rw [Nat.mul_comm]; exact not_lt.mp hle)
    omega
  have hwindows : List.Forall₂ Shows
      ((List.range (rows.length ⌈/⌉ s)).flatMap fun k : ℕ => window s (k * s) rows)
      ((List.range (rows.length ⌈/⌉ s)).flatMap content) := by
    refine List.rel_flatMap (R := fun j k => j = k ∧ k * s < rows.length) (P := Shows) ?_ ?_
    · exact List.forall₂_same.mpr fun k hk => ⟨rfl, hbefore k (List.mem_range.mp hk)⟩
    · rintro j k ⟨rfl, hk⟩
      have hpage := hcontent j hk
      rwa [offset_eq (hk.trans hrows)] at hpage
  rwa [windows_flatten, List.take_of_length_le hroom] at hwindows

/-- **Pages that are windows** partition the rows. -/
theorem partition_of_windows [HasId ρ] {list : PageRequest → Action Backend (Page α)}
    {b : Backend} {s : ℕ} {rows : List ρ} {Shows : ρ → α → Prop} {id : α → Int} (hs : 1 ≤ s)
    (hs' : s ≤ valueLimit) (hrows : rows.length < 2 ^ 62)
    (hsorted : (rows.map HasId.id).Pairwise (· < ·)) (hid : ∀ r a, Shows r a → id a = HasId.id r)
    (hlist : ∀ k : ℕ, ∃ content,
      list ⟨k, s⟩ b = (.ok ⟨content, k, s, rows.length⟩, b) ∧
        List.Forall₂ Shows (window s (PageRequest.offset ⟨k, s⟩) rows) content) :
    ∃ n page, Partition list b s rows Shows id n page := by
  obtain ⟨content, hlist⟩ := Classical.axiomOfChoice hlist
  have hlimit : valueLimit = 32766 := rfl
  set n := rows.length ⌈/⌉ s with hn
  have hlast : n * s ≤ rows.length + s - 1 := by
    rw [hn, Nat.ceilDiv_eq_add_pred_div]
    exact Nat.div_mul_le_self ..
  have hall : List.Forall₂ Shows rows ((List.range n).flatMap content) :=
    windows_show hs (by omega) fun k _ => (hlist k).2
  have hids : ((List.range n).flatMap content).map id = rows.map HasId.id :=
    map_eq_of_forall₂ (hall.flip.imp fun _ _ h => hid _ _ h)
  refine ⟨n, fun k => ⟨content k, k, s, rows.length⟩, ?_⟩
  exact {
    read := fun k _ => (hlist k).1
    total := fun _ _ => rfl
    pages := fun _ _ => pages_eq hs rfl rfl (by omega)
    every := hall
    ascending := hids ▸ hsorted
    full := fun k hk => by
      -- the rows before a page can be counted
      have hle : k * s ≤ n * s := Nat.mul_le_mul_right s (by omega)
      rw [← (hlist k).2.length_eq, offset_eq (by omega)]
      exact length_window_full hs rfl hk }

end

/-! ## the pages of orders -/

namespace Orders

/-- An order as a listing shows it: its row, with the lines that name it. -/
def Shows (lines : Table ItemRow) (row : OrderRow) (o : Order) : Prop :=
  ∃ o₀ rows ls, row.order? = some o₀ ∧ rows.Perm (linesOf lines row.id) ∧
    List.Forall₂ (fun r l => ItemRow.line? r = some l) rows ls ∧ o = { o₀ with lines := some ls }

/-- An order whose row and whose lines can be read. -/
def Legible (lines : Table ItemRow) (row : OrderRow) : Prop :=
  row.order?.isSome ∧ ∀ r ∈ linesOf lines row.id, r.line?.isSome

section
variable {db : Database} {book : Table OrderRow} {lines : Table ItemRow} {b : Backend}

theorem Shows.id_eq {row : OrderRow} {o : Order} (h : Shows lines row o) : o.id = row.id := by
  obtain ⟨o₀, rows, ls, horder, -, -, rfl⟩ := h
  exact (OrderRow.order?_eq_some_iff.mp horder).1

/-- the lines of several orders are read at once, and each order gets its own -/
theorem items_read {ids : List Int} (hclosed : db.closed = false)
    (hlines : db.tables.items = some lines) (hcount : ids.length ≤ valueLimit)
    (hlegible : ∀ id ∈ ids, ∀ r ∈ linesOf lines id, r.line?.isSome) : ∃ items,
      allRows "load order items" scanItem (.selectItems ids) (.embedded db)
        = (.ok items, .embedded db) ∧
      ∀ id ∈ ids, ∃ rows, rows.Perm (linesOf lines id) ∧
        List.Forall₂ (fun r l => ItemRow.line? r = some l) rows
          ((items.filter (·.1 == id)).map Prod.snd) := by
  set named := (lines.rows.filter fun r => ids.any fun id => r.orderId == .int id) with hnamed
  have hline : ∀ r ∈ named.mergeSort ItemRow.before, ∃ x : Int × Line,
      r.orderId = .int x.1 ∧ r.line? = some x.2 := by
    intro r hr
    obtain ⟨hr, hany⟩ := List.mem_filter.mp (List.mem_mergeSort.mp hr)
    obtain ⟨id, hmem, hown⟩ := List.any_eq_true.mp hany
    obtain ⟨l, hl⟩ := Option.isSome_iff_exists.mp
      (hlegible id hmem r (List.mem_filter.mpr ⟨hr, hown⟩))
    exact ⟨(id, l), eq_of_beq hown, hl⟩
  obtain ⟨items, hitems⟩ := exists_forall₂ hline
  refine ⟨items, allRows_ok_iff.mpr ⟨_,
    selectItems_ok_iff.mpr ⟨hclosed, rfl, hcount, lines, hlines, rfl⟩,
    scanAll_ofRows_iff.mpr (hitems.imp fun r x hx => scanItem_ok_iff.mpr ⟨?_, hx.2⟩)⟩,
    fun id hmem => ?_⟩
  · rw [hx.1]
    rfl
  have hmine := List.rel_filter (p := (·.orderId == .int id)) (q := (·.1 == id))
    (fun r x hx => by simp [hx.1]) hitems
  have hself : named.filter (·.orderId == .int id) = linesOf lines id := by
    rw [hnamed, List.filter_comm]
    exact List.filter_eq_self.mpr fun r hr =>
      List.any_eq_true.mpr ⟨id, hmem, (List.mem_filter.mp hr).2⟩
  refine ⟨_, ?_, List.forall₂_map_right_iff.mpr (hmine.imp fun _ _ hx => hx.2)⟩
  rw [← hself]
  exact (List.mergeSort_perm named ItemRow.before).filter _

theorem loadLines_shows {rows : List OrderRow} {os : List Order} (hclosed : db.closed = false)
    (hlines : db.tables.items = some lines) (hunique : (rows.map HasId.id).Nodup)
    (hcount : rows.length ≤ valueLimit) (hlegible : ∀ row ∈ rows, Legible lines row)
    (horders : List.Forall₂ (fun row o => OrderRow.order? row = some o) rows os) :
    ∃ as, loadLines os (.embedded db) = (.ok as, .embedded db) ∧
      List.Forall₂ (Shows lines) rows as := by
  have hid : ∀ {row : OrderRow} {o : Order}, row.order? = some o → o.id = row.id :=
    fun ho => (OrderRow.order?_eq_some_iff.mp ho).1
  have hids : os.map Order.id = rows.map HasId.id :=
    map_eq_of_forall₂ (horders.flip.imp fun _ _ ho => hid ho)
  unfold loadLines
  split
  · next hnil =>
    rw [List.isEmpty_iff.mp hnil] at horders
    rw [List.forall₂_nil_right_iff.mp horders]
    exact ⟨[], rfl, .nil⟩
  rw [hids]
  have hread : ∀ id ∈ rows.map HasId.id, ∀ r ∈ linesOf lines id, r.line?.isSome := by
    intro id hmem
    obtain ⟨row, hrow, rfl⟩ := List.mem_map.mp hmem
    exact (hlegible row hrow).2
  obtain ⟨items, hall, hmine⟩ := items_read hclosed hlines (by rwa [List.length_map]) hread
  refine ⟨_, Action.bind_of_ok hall, ?_⟩
  rw [attach_eq_map items (hids ▸ hunique), List.forall₂_map_right_iff]
  refine ((List.forall₂_and_left _ _).mpr ⟨fun row hrow => hrow, horders⟩).imp fun row o ho => ?_
  obtain ⟨named, hperm, hspelled⟩ := hmine row.id (List.mem_map_of_mem ho.1)
  rw [← hid ho.2] at hspelled
  exact ⟨o, named, _, ho.2, hperm, hspelled, rfl⟩

/-- **A page of orders** is a window of those that match. -/
theorem find_window {status : Option Status} {page : PageRequest} (hclosed : db.closed = false)
    (hbook : db.tables.orders = some book) (hlines : db.tables.items = some lines)
    (hunique : (book.rows.map HasId.id).Nodup)
    (hlegible : ∀ row ∈ withStatus (status.map Status.name) book.rows, Legible lines row)
    (hsize : 0 ≤ page.size) (hsize' : page.size ≤ valueLimit) :
    ∃ content, find status page (.embedded db) = (.ok ⟨content, page.number, page.size,
      (withStatus (status.map Status.name) book.rows).length⟩, .embedded db) ∧
      List.Forall₂ (Shows lines)
        (window page.size page.offset (withStatus (status.map Status.name) book.rows)) content := by
  set rows := withStatus (status.map Status.name) book.rows with hrows
  have hcount : (firstRow scanInt (.countOrders (status.map Status.name))).context "count orders"
      (.embedded db) = (.ok (rows.length : Int), .embedded db) := by
    refine Action.context_ok_iff.mpr
      (firstRow_ok_iff.mpr ⟨.number rows.length, _, [], ?_, rfl, rfl⟩)
    exact (query_ok_iff (answer_orders rfl) (fun _ => rfl) fun t ht => by rw [← ht]).mpr
      ⟨hclosed, rfl, book, hbook, rfl⟩
  have hsub := window_sublist page.size page.offset rows
  have hlength : (window page.size page.offset rows).length ≤ valueLimit := by
    rw [length_window hsize]
    omega
  by_cases hzero : (rows.length : Int) = 0
  · have hnil : rows = [] := List.length_eq_zero_iff.mp (by omega)
    refine ⟨[], (Action.bind_of_ok hcount).trans ?_, ?_⟩
    · rw [if_pos hzero]
      rfl
    · rw [hnil, List.sublist_nil.mp (window_sublist page.size page.offset [])]
      exact .nil
  obtain ⟨os, hos⟩ := exists_forall₂ (R := fun row o => OrderRow.order? row = some o)
    fun row hrow => Option.isSome_iff_exists.mp (hlegible row (hsub.subset hrow)).1
  obtain ⟨as, hload, hshows⟩ := loadLines_shows hclosed hlines
    (hunique.sublist ((hsub.trans (withStatus_sublist _ _)).map _)) hlength
    (fun row hrow => hlegible row (hsub.subset hrow)) hos
  have hlist : allRows "list orders" scan (.listOrders (status.map Status.name) page.size
      page.offset) (.embedded db) = (.ok os, .embedded db) := by
    refine allRows_ok_iff.mpr ⟨_, (query_ok_iff (answer_orders rfl) (fun _ => rfl)
      fun t ht => by rw [← ht]).mpr ⟨hclosed, rfl, book, hbook, rfl⟩, ?_⟩
    exact scanAll_ofRows_iff.mpr (hos.imp fun _ _ ho => scan_ok_iff.mpr ho)
  refine ⟨as, (Action.bind_of_ok hcount).trans ?_, hshows⟩
  rw [if_neg hzero, Action.bind_of_ok hlist, Action.bind_of_ok hload]
  rfl

end

end Orders

/-! ## the pages of products -/

/-- **A page of products that is read**: the number of those that match, and the rows of its
window. -/
theorem Products.list_ok_iff {db : Database} {b : Backend} {fragment : String} {page : PageRequest}
    {p : Page Product} : list fragment page (.embedded db) = (.ok p, b) ↔
      db.closed = false ∧ b = .embedded db ∧ ∃ t rows, db.tables.products = some t ∧
        matching (pattern fragment) t.rows = .ok rows ∧
        p = ⟨p.content, page.number, page.size, rows.length⟩ ∧
        List.Forall₂ (fun row a => ProductRow.product? row = some a)
          (window page.size page.offset rows) p.content := by
  constructor
  · intro h
    obtain ⟨total, b₁, hcount, h⟩ := Action.bind_ok_iff.mp h
    obtain ⟨r₁, row₁, rest, hsent, hfirst, htotal⟩ :=
      firstRow_ok_iff.mp (Action.context_ok_iff.mp hcount)
    obtain ⟨hclosed, t, t₁, ht, hanswer, rfl⟩ := (send_through (answer_products rfl)).mp hsent
    obtain ⟨rows, hmatch, hanswer⟩ := bind_ok_iff.mp hanswer
    cases hanswer
    obtain ⟨rfl, -⟩ := List.cons.inj hfirst
    obtain rfl : (rows.length : Int) = total := Except.ok.inj htotal
    obtain ⟨content, b₂, hlist, hret⟩ := Action.bind_ok_iff.mp h
    obtain ⟨r, hsend, hscan⟩ := allRows_ok_iff.mp hlist
    obtain ⟨-, t₂, t₃, ht₂, hanswer, rfl⟩ := (send_through (answer_products rfl)).mp hsend
    obtain rfl : t = t₂ := Option.some.inj ht₂
    obtain ⟨rows₂, hmatch₂, hanswer⟩ := bind_ok_iff.mp hanswer
    obtain rfl : rows = rows₂ := Except.ok.inj (hmatch.symm.trans hmatch₂)
    cases hanswer
    obtain ⟨hp, rfl⟩ := Prod.mk.inj hret
    rw [← Outcome.ok.inj hp]
    refine ⟨hclosed, by rw [← ht], t, rows, ht, hmatch, rfl, ?_⟩
    exact (scanAll_ofRows_iff.mp hscan).imp fun _ _ hp => Products.scan_ok_iff.mp hp
  · rintro ⟨hclosed, rfl, t, rows, ht, hmatch, hp, hcontent⟩
    have hcount : (firstRow scanInt (.countProducts (pattern fragment))).context "count products"
        (.embedded db) = (.ok (rows.length : Int), .embedded db) := by
      refine Action.context_ok_iff.mpr
        (firstRow_ok_iff.mpr ⟨.number rows.length, _, [], ?_, rfl, rfl⟩)
      refine (send_through (answer_products rfl)).mpr ⟨hclosed, t, t, ht, ?_, by rw [← ht]⟩
      show (matching _ t.rows >>= _) = _
      rw [hmatch]
      rfl
    have hlist : allRows "list products" scan (.listProducts (pattern fragment) page.size
        page.offset) (.embedded db) = (.ok p.content, .embedded db) := by
      refine allRows_ok_iff.mpr ⟨.ofRows ((window page.size page.offset rows).map ProductRow.cells),
        (send_through (answer_products rfl)).mpr ⟨hclosed, t, t, ht, ?_, by rw [← ht]⟩, ?_⟩
      · show (matching _ t.rows >>= _) = _
        rw [hmatch]
        rfl
      · exact scanAll_ofRows_iff.mpr (hcontent.imp fun _ _ hp => Products.scan_ok_iff.mpr hp)
    refine (Action.bind_of_ok hcount).trans ?_
    rw [Action.bind_of_ok hlist, hp]
    rfl

/-- **A page of products** is a window of those that match. -/
theorem Products.list_window {db : Database} {t : Table ProductRow} {rows : List ProductRow}
    {fragment : String} {page : PageRequest} (hclosed : db.closed = false)
    (ht : db.tables.products = some t) (hmatch : matching (pattern fragment) t.rows = .ok rows)
    (hlegible : ∀ row ∈ rows, row.product?.isSome) :
    ∃ content, list fragment page (.embedded db)
        = (.ok ⟨content, page.number, page.size, rows.length⟩, .embedded db) ∧
      List.Forall₂ (fun row p => ProductRow.product? row = some p)
        (window page.size page.offset rows) content := by
  obtain ⟨content, hcontent⟩ := exists_forall₂ (R := fun row p => ProductRow.product? row = some p)
    fun row hrow => Option.isSome_iff_exists.mp
      (hlegible row ((Orders.window_sublist page.size page.offset rows).subset hrow))
  exact ⟨content, list_ok_iff.mpr ⟨hclosed, rfl, t, rows, ht, hmatch, rfl, hcontent⟩, hcontent⟩

/-! ## pages that were read -/

section
variable {db : Database} {b : Backend} {page : PageRequest}

theorem isSome_of_forall₂ {ρ α : Type} {f : ρ → Option α} {rows : List ρ} {as : List α}
    (h : List.Forall₂ (fun r a => f r = some a) rows as) : ∀ r ∈ rows, (f r).isSome := by
  intro r hr
  obtain ⟨a, -, ha⟩ := exists_of_mem_forall₂ h.flip hr
  exact Option.isSome_iff_exists.mpr ⟨a, ha⟩

theorem Products.legible_of_list {t : Table ProductRow} {rows : List ProductRow}
    {fragment : String} {p : Page Product} (ht : db.tables.products = some t)
    (hmatch : matching (pattern fragment) t.rows = .ok rows)
    (h : list fragment page (.embedded db) = (.ok p, b)) :
    ∀ row ∈ window page.size page.offset rows, row.product?.isSome := by
  obtain ⟨-, -, t', rows', ht', hmatch', -, hread⟩ := list_ok_iff.mp h
  obtain rfl : t = t' := Option.some.inj (ht.symm.trans ht')
  obtain rfl : rows = rows' := Except.ok.inj (hmatch.symm.trans hmatch')
  exact isSome_of_forall₂ hread

/-- lines are read for several orders only if each of them can be read -/
theorem Orders.legible_of_loadLines {lines : Table ItemRow} {os as : List Order}
    (hlines : db.tables.items = some lines) (h : loadLines os (.embedded db) = (.ok as, b)) :
    ∀ o ∈ os, ∀ r ∈ linesOf lines o.id, r.line?.isSome := by
  intro o ho r hr
  unfold loadLines at h
  rw [if_neg (by simpa using List.ne_nil_of_mem ho)] at h
  obtain ⟨items, b₁, hall, -⟩ := Action.bind_ok_iff.mp h
  obtain ⟨reply, hsend, hscan⟩ := allRows_ok_iff.mp hall
  obtain ⟨-, -, -, t, ht, rfl⟩ := selectItems_ok_iff.mp hsend
  obtain rfl : lines = t := Option.some.inj (hlines.symm.trans ht)
  obtain ⟨hmem, hown⟩ := List.mem_filter.mp hr
  have hnamed : r ∈ (lines.rows.filter fun row =>
      (os.map (·.id)).any fun id => row.orderId == .int id).mergeSort ItemRow.before :=
    List.mem_mergeSort.mpr (List.mem_filter.mpr
      ⟨hmem, List.any_eq_true.mpr ⟨o.id, List.mem_map_of_mem ho, hown⟩⟩)
  obtain ⟨x, -, hx⟩ := exists_of_mem_forall₂ (scanAll_ofRows_iff.mp hscan).flip hnamed
  exact Option.isSome_iff_exists.mpr ⟨x.2, (scanItem_ok_iff.mp hx).2⟩

theorem Orders.legible_of_find {book : Table OrderRow} {lines : Table ItemRow}
    {status : Option Status} {p : Page Order} (hbook : db.tables.orders = some book)
    (hlines : db.tables.items = some lines) (h : find status page (.embedded db) = (.ok p, b)) :
    ∀ row ∈ window page.size page.offset (withStatus (status.map Status.name) book.rows),
      Legible lines row := by
  obtain ⟨book', os, hbook', -, hread, hload⟩ := find_rows h
  obtain rfl : book = book' := Option.some.inj (hbook.symm.trans hbook')
  intro row hrow
  obtain ⟨o, ho, horder⟩ := exists_of_mem_forall₂ hread.flip hrow
  refine ⟨isSome_of_forall₂ hread row hrow, ?_⟩
  rw [← (OrderRow.order?_eq_some_iff.mp horder).1]
  exact legible_of_loadLines hlines hload o ho

/-- What a page tells of a listing of `n` rows. -/
structure Cut {α : Type} (page : PageRequest) (n : ℕ) (p : Page α) : Prop where
  number : p.number = page.number
  size : p.size = page.size
  total : p.total = n
  length : p.content.length = min page.size.toNat (n - page.offset.toNat)

theorem Orders.attach_rest (items : List (Int × Line)) (os : List Order) :
    List.Forall₂ (fun o a => a = { o with lines := a.lines }) os (attach items os) := by
  induction os with
  | nil => exact .nil
  | cons o os ih => exact .cons rfl ih

/-- but for their lines, orders stay as their rows were read -/
theorem Orders.loadLines_rest {os as : List Order} {b b' : Backend}
    (h : loadLines os b = (.ok as, b')) :
    List.Forall₂ (fun o a => a = { o with lines := a.lines }) os as := by
  unfold loadLines at h
  split at h
  · next hnil =>
    rw [← Outcome.ok.inj (Prod.mk.inj h).1, List.isEmpty_iff.mp hnil]
    exact .nil
  · obtain ⟨items, b₁, -, hret⟩ := Action.bind_ok_iff.mp h
    rw [← Outcome.ok.inj (Prod.mk.inj hret).1]
    exact attach_rest items os

/-- the times of an order, as its row has them -/
def OrderRow.times? (row : OrderRow) : Option (Stamp × Stamp) :=
  row.order?.map fun o => (o.createdAt, o.updatedAt)

def ProductRow.times? (row : ProductRow) : Option (Stamp × Stamp) :=
  row.product?.map fun p => (p.createdAt, p.updatedAt)

/-- **A page of orders that is read** is as long as its window, whatever rows there are, and has
the times of these rows. -/
theorem Orders.find_cut {status : Option Status} {p : Page Order} (hsize : 0 ≤ page.size)
    (h : find status page (.embedded db) = (.ok p, b)) : ∃ book, db.tables.orders = some book ∧
      Cut page (withStatus (status.map Status.name) book.rows).length p ∧
      window page.size page.offset
          ((withStatus (status.map Status.name) book.rows).map OrderRow.times?)
        = p.content.map fun o => some (o.createdAt, o.updatedAt) := by
  obtain ⟨book, os, hbook, hp, hread, hload⟩ := find_rows h
  have hrest := loadLines_rest hload
  refine ⟨book, hbook, ⟨by rw [hp], by rw [hp], by rw [hp], ?_⟩, ?_⟩
  · rw [← hrest.length_eq, ← hread.length_eq]
    exact length_window hsize _ _
  · have hread : List.Forall₂ (fun row o => OrderRow.times? row = some (o.createdAt, o.updatedAt))
        (window page.size page.offset (withStatus (status.map Status.name) book.rows)) os :=
      hread.imp fun row o ho => by rw [OrderRow.times?, ho]; rfl
    rw [window_map, map_eq_of_forall₂ hread]
    exact map_eq_of_forall₂ (hrest.imp fun o a ha => by rw [ha])

/-- **A page of products that is read** is as long as its window, and has the times of its rows. -/
theorem Products.list_cut {fragment : String} {p : Page Product} (hsize : 0 ≤ page.size)
    (h : list fragment page (.embedded db) = (.ok p, b)) : ∃ t rows, db.tables.products = some t ∧
      matching (pattern fragment) t.rows = .ok rows ∧ Cut page rows.length p ∧
      window page.size page.offset (rows.map ProductRow.times?)
        = p.content.map fun p => some (p.createdAt, p.updatedAt) := by
  obtain ⟨-, -, t, rows, ht, hmatch, hp, hread⟩ := list_ok_iff.mp h
  refine ⟨t, rows, ht, hmatch, ⟨by rw [hp], by rw [hp], by rw [hp], ?_⟩, ?_⟩
  · rw [← hread.length_eq]
    exact length_window hsize _ _
  · rw [window_map]
    exact map_eq_of_forall₂ (hread.imp fun row p hp => by rw [ProductRow.times?, hp]; rfl)

end

/-! ## both listings -/

theorem matching_sublist {pattern : Option String} {rows found : List ProductRow}
    (h : matching pattern rows = .ok found) : found.Sublist rows := by
  unfold matching at h
  split at h
  · exact Except.ok.inj h ▸ List.Sublist.refl rows
  · split at h
    · cases h
    · exact Except.ok.inj h ▸ List.filter_sublist

/-- every row is on a page that begins before the last row -/
theorem exists_window {α : Type} {rows : List α} {s : ℕ} {a : α} (hs : 1 ≤ s)
    (hrows : rows.length < 2 ^ 62) (ha : a ∈ rows) :
    ∃ k : ℕ, k * s < rows.length ∧ a ∈ window s (PageRequest.offset ⟨k, s⟩) rows := by
  have hroom : rows.length ≤ rows.length * s := Nat.le_mul_of_pos_right _ hs
  rw [← List.take_of_length_le hroom, ← windows_flatten] at ha
  obtain ⟨k, -, ha⟩ := List.mem_flatMap.mp ha
  have hk : k * s < rows.length := by
    by_contra hpast
    rw [window_eq, List.drop_eq_nil_of_le (not_lt.mp hpast)] at ha
    cases List.take_nil ▸ ha
  exact ⟨k, hk, by rwa [offset_eq (by omega)]⟩

/-- A listing by pages of `s` rows: every page that begins before the last row is read exactly if
every row can be read, and then the pages are a partition. -/
structure Paged {ρ α : Type} (list : PageRequest → Action Backend (Page α)) (b : Backend) (s : ℕ)
    (rows : List ρ) (Legible : ρ → Prop) (Shows : ρ → α → Prop) (id : α → Int) : Prop where
  read_iff : (∀ k : ℕ, k * s < rows.length → ∃ p b', list ⟨k, s⟩ b = (.ok p, b')) ↔
    ∀ row ∈ rows, Legible row
  partition : (∀ row ∈ rows, Legible row) → ∃ n page, Partition list b s rows Shows id n page

/-- **A listing by windows** that are read exactly if their rows can be read. -/
theorem paged_of_windows {ρ α : Type} [HasId ρ] {list : PageRequest → Action Backend (Page α)}
    {b : Backend} {s : ℕ} {rows : List ρ} {Legible : ρ → Prop} {Shows : ρ → α → Prop}
    {id : α → Int} (hs : 1 ≤ s) (hs' : s ≤ valueLimit) (hrows : rows.length < 2 ^ 62)
    (hsorted : (rows.map HasId.id).Pairwise (· < ·)) (hid : ∀ r a, Shows r a → id a = HasId.id r)
    (hlist : (∀ row ∈ rows, Legible row) → ∀ k : ℕ, ∃ content,
      list ⟨k, s⟩ b = (.ok ⟨content, k, s, rows.length⟩, b) ∧
        List.Forall₂ Shows (window s (PageRequest.offset ⟨k, s⟩) rows) content)
    (hlegible : ∀ (k : ℕ) p b', list ⟨k, s⟩ b = (.ok p, b') →
      ∀ row ∈ window s (PageRequest.offset ⟨k, s⟩) rows, Legible row) :
    Paged list b s rows Legible Shows id where
  read_iff := by
    -- a row that cannot be read spoils the page it is on
    refine ⟨fun hread row hrow => ?_, fun hall k _ => ?_⟩
    · obtain ⟨k, hk, hrow⟩ := exists_window hs hrows hrow
      obtain ⟨p, b', hpage⟩ := hread k hk
      exact hlegible k p b' hpage row hrow
    · obtain ⟨content, hpage, -⟩ := hlist hall k
      exact ⟨_, _, hpage⟩
  partition hall := partition_of_windows hs hs' hrows hsorted hid (hlist hall)

/-- **Pages partition what is listed.** The rows of a database are in order, whatever happens to it.
The pages of `s` rows are read exactly if every order with the status can be read with its lines,
and then they show each of these orders once and nothing else, by ascending id. So do the pages of
the products whose names have a fragment that the engine accepts. -/
theorem pages_partition {db : Database} {s : ℕ} (hclosed : db.closed = false)
    (hordered : db.tables.Ordered) (hs : 1 ≤ s) (hs' : s ≤ 32766) :
    (∀ (status : Option Status) (book : Table OrderRow) (lines : Table ItemRow),
      db.tables.orders = some book → db.tables.items = some lines → book.rows.length < 2 ^ 62 →
      Paged (Orders.find status) (.embedded db) s (withStatus (status.map Status.name) book.rows)
        (Orders.Legible lines) (Orders.Shows lines) Order.id) ∧
    ∀ (fragment : String) (t : Table ProductRow) (rows : List ProductRow),
      db.tables.products = some t → t.rows.length < 2 ^ 62 →
      matching (Products.pattern fragment) t.rows = .ok rows →
      Paged (Products.list fragment) (.embedded db) s rows (fun row => row.product?.isSome)
        (fun row p => ProductRow.product? row = some p) Product.id := by
  constructor
  · intro status book lines hbook hlines hrows
    have hsub := Orders.withStatus_sublist (status.map Status.name) book.rows
    have hbooked := hordered.orders book hbook
    refine paged_of_windows hs hs' (hsub.length_le.trans_lt hrows) (hbooked.sublist (hsub.map _))
      (fun _ _ h => h.id_eq) (fun hlegible k => ?_) fun k p b' hfind => ?_
    · exact Orders.find_window hclosed hbook hlines hbooked.nodup hlegible
        (Int.natCast_nonneg s) (Int.ofNat_le.mpr hs')
    · exact Orders.legible_of_find hbook hlines hfind
  · intro fragment t rows ht hrows hmatch
    have hsub := matching_sublist hmatch
    refine paged_of_windows hs hs' (hsub.length_le.trans_lt hrows)
      ((hordered.products t ht).sublist (hsub.map _))
      (fun _ _ h => (ProductRow.product?_eq_some_iff.mp h).1)
      (fun hlegible k => ?_) fun k p b' hlist => ?_
    · exact Products.list_window hclosed ht hmatch hlegible
    · exact Products.legible_of_list ht hmatch hlist

section
variable (id : Int)

def orderRow (status : String) : OrderRow := ⟨id, some "", status, "2", .time .zero, .time .zero⟩

def itemRow : ItemRow := ⟨id, .int id, .int 0, .int 1, "apple", .int 1, "2"⟩

def productRow (name : String) : ProductRow := ⟨id, name, "2", .int 5, .time .zero, .time .zero⟩

end

/-- A small store: three orders of one line each, and three products. -/
def shelf : Database where
  tables := {
    orders := some { rows := [orderRow 1 "PENDING", orderRow 2 "SHIPPED", orderRow 5 "PENDING"] }
    items := some { rows := [itemRow 1, itemRow 2, itemRow 5] }
    products := some
      { rows := [productRow 1 "Apple", productRow 3 "Pear", productRow 4 "Pineapple"] } }

theorem shelf_ordered : shelf.tables.Ordered where
  products := by rintro t ⟨⟩; decide +kernel
  orders := by rintro t ⟨⟩; decide +kernel
  items := by rintro t ⟨⟩; decide +kernel
  categories := nofun

theorem pages_partition_shelf :
    (∃ n page, Partition (Orders.find (some .pending)) (.embedded shelf) 1
      [orderRow 1 "PENDING", orderRow 5 "PENDING"]
      (Orders.Shows { rows := [itemRow 1, itemRow 2, itemRow 5] }) Order.id n page) ∧
    ∃ n page, Partition (Products.list "APP") (.embedded shelf) 1
      [productRow 1 "Apple", productRow 4 "Pineapple"]
      (fun row p => ProductRow.product? row = some p) Product.id n page := by
  have hlegible : ∀ row ∈ [orderRow 1 "PENDING", orderRow 5 "PENDING"],
      Orders.Legible { rows := [itemRow 1, itemRow 2, itemRow 5] } row := by
    unfold Orders.Legible
    decide +kernel
  obtain ⟨horders, hproducts⟩ := pages_partition (s := 1) (rfl : shelf.closed = false)
    shelf_ordered (by decide) (by decide)
  exact ⟨(horders (some .pending) _ _ rfl rfl (by decide)).partition hlegible,
    (hproducts "APP" _ _ rfl (by decide) rfl).partition (by decide +kernel)⟩

end OrderDesk.Store
