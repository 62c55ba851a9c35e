import OrderDesk.Proofs.Desk.Conservation
import OrderDesk.Proofs.Store.Paging
import OrderDesk.Proofs.Store.Pattern

/-!
# Products by name

The fragment is put into lower case by the service, and the names by the engine, which knows the
letters of ASCII only. So a search for a fragment of ASCII without marks finds the names that it is
in, while a product is found by its own name only if both lower cases of the name agree.

* `listProducts_ok_iff`         when a page of products is read, and what it then shows;
* `listProducts_matching`, `shown_first_iff`   pages of the rows that match a fragment;
* `hits`, `search_finds_fragment`      what a search for a plain fragment finds;
* `Does.productNames`           the names that products get;
* `Christened.after`            what is true of all names given is true of all names there;
* `found_by_own_name_iff`       which products are found by their own names.
-/

namespace OrderDesk

/-- A fragment of ASCII, without the end of a text and without the marks of a pattern. -/
def Text.Plain (s : String) : Prop :=
  ∀ c ∈ s.toList, c.toNat < 0x80 ∧ c ≠ '\x00' ∧ c ≠ '%' ∧ c ≠ '_'

instance (s : String) : Decidable (Text.Plain s) := List.decidableBAll _ s.toList

/-- A name has a fragment in it, where the case of the letters of ASCII does not count. -/
def Text.Within (fragment name : String) : Prop :=
  fragment.toList.map Text.asciiLowerChar <:+: name.toList.map Text.asciiLowerChar

instance (fragment name : String) : Decidable (Text.Within fragment name) :=
  inferInstanceAs (Decidable (_ <:+: _))

namespace Store

section
variable {fragment : String} {rows : List ProductRow}

/-- A row that the engine takes for a fragment. -/
def ProductRow.Matches (fragment : String) (r : ProductRow) : Prop :=
  like ("%" ++ Text.lower fragment ++ "%") (String.ofList (folded r.name)) = true

instance (r : ProductRow) : Decidable (r.Matches fragment) := inferInstanceAs (Decidable (_ = _))

theorem matching_fragment (hne : fragment ≠ "")
    (hshort : (Text.lower fragment).utf8ByteSize + 2 ≤ patternLimit) :
    matching (Products.pattern fragment) rows = .ok (rows.filter fun r => r.Matches fragment) := by
  have hsize : ("%" ++ Text.lower fragment ++ "%").utf8ByteSize
      = (Text.lower fragment).utf8ByteSize + 2 := by
    rw [String.utf8ByteSize_append, String.utf8ByteSize_append]
    show 1 + _ + 1 = _
    omega
  unfold Products.pattern matching
  rw [if_neg hne]
  dsimp only
  rw [if_neg fun h => by omega]
  exact congrArg Except.ok (List.filter_congr fun r _ => Bool.decide_eq_true.symm)

end

end Store

namespace Desk

open Store (Backend Database Tables Table HasId ProductRow matching window patternLimit)

section
variable {d d' : Desk} {db : Database} {t : Table ProductRow} {fragment : String}
  {page : PageRequest} {p : Page Product}

theorem listProducts_ok_iff (hs : d.store = .embedded db) :
    listProducts fragment page d = (.ok p, d') ↔ d' = d ∧ db.closed = false ∧
      ∃ t rows, db.tables.products = some t ∧
        matching (Store.Products.pattern (Text.trim fragment)) t.rows = .ok rows ∧
        p = ⟨p.content, page.number, page.size, rows.length⟩ ∧
        List.Forall₂ (fun row a => ProductRow.product? row = some a)
          (window page.size page.offset rows) p.content := by
  have hsame : { d with store := .embedded db } = d := by rw [← hs]
  unfold listProducts
  rw [onStore_eq_iff, hs]
  simp only [Store.Products.list_ok_iff]
  constructor
  · rintro ⟨b, ⟨hclosed, rfl, h⟩, rfl⟩
    exact ⟨hsame, hclosed, h⟩
  · rintro ⟨rfl, hclosed, h⟩
    exact ⟨_, ⟨hclosed, rfl, h⟩, hsame.symm⟩

section
variable {rows : List ProductRow} (hs : d.store = .embedded db) (hopen : db.closed = false)
  (ht : db.tables.products = some t)
  (hmatch : matching (Store.Products.pattern (Text.trim fragment)) t.rows = .ok rows)

include hs hopen ht hmatch

/-- A page is a window of the rows that match, and tells how many they are. -/
theorem listProducts_matching (page : PageRequest) (p : Page Product) (d' : Desk) :
    listProducts fragment page d = (.ok p, d') ↔ d' = d ∧
      p.number = page.number ∧ p.size = page.size ∧ p.total = rows.length ∧
      List.Forall₂ (fun row a => ProductRow.product? row = some a)
        (window page.size page.offset rows) p.content := by
  rw [listProducts_ok_iff hs]
  obtain ⟨content, number, size, total⟩ := p
  constructor
  · rintro ⟨rfl, -, t', rows', ht', hmatch', hp, hcontent⟩
    obtain rfl : t = t' := Option.some.inj (ht.symm.trans ht')
    obtain rfl := Except.ok.inj (hmatch.symm.trans hmatch')
    obtain ⟨-, rfl, rfl, rfl⟩ := (Page.mk.injEq ..).mp hp
    exact ⟨rfl, rfl, rfl, rfl, hcontent⟩
  · rintro ⟨rfl, rfl, rfl, rfl, hcontent⟩
    exact ⟨rfl, hopen, t, _, ht, hmatch, rfl, hcontent⟩

/-- A first page with room for all that match shows a product exactly if its row matches and all rows
that match can be read. -/
theorem shown_first_iff {r : ProductRow} {size : Int} (hunique : (t.rows.map HasId.id).Nodup)
    (hrows : rows ⊆ t.rows) (hroom : rows.length ≤ size) (hr : r ∈ t.rows) :
    (∃ p d' a, listProducts fragment ⟨0, size⟩ d = (.ok p, d') ∧ a ∈ p.content ∧
        r.product? = some a) ↔
      r ∈ rows ∧ ∀ row ∈ rows, row.product?.isSome := by
  have hall : window size (PageRequest.offset ⟨0, size⟩) rows = rows :=
    Store.Orders.window_first hroom
  have hpage := listProducts_matching hs hopen ht hmatch ⟨0, size⟩
  rw [hall] at hpage
  constructor
  · rintro ⟨p, d', a, hlist, ha, hproduct⟩
    obtain ⟨-, -, -, -, hcontent⟩ := (hpage p d').mp hlist
    refine ⟨?_, Store.isSome_of_forall₂ hcontent⟩
    -- the row that the product was read from has its id, and so is its row
    obtain ⟨row, hrow, hread⟩ := Store.exists_of_mem_forall₂ hcontent ha
    have hid : HasId.id row = HasId.id r := (ProductRow.product?_eq_some_iff.mp hread).1.symm.trans
      (ProductRow.product?_eq_some_iff.mp hproduct).1
    exact List.inj_on_of_nodup_map hunique (hrows hrow) hr hid ▸ hrow
  · rintro ⟨hmem, hlegible⟩
    obtain ⟨content, hcontent⟩ :=
      Store.exists_forall₂ (R := fun row p => ProductRow.product? row = some p) fun row hrow =>
        Option.isSome_iff_exists.mp (hlegible row hrow)
    obtain ⟨a, ha, hproduct⟩ := Store.exists_of_mem_forall₂ hcontent.flip hmem
    exact ⟨⟨content, 0, size, rows.length⟩, d, a, (hpage _ _).mpr ⟨rfl, rfl, rfl, rfl, hcontent⟩, ha,
      hproduct⟩

end

/-! ## plain fragments -/

/-- the rows whose names have a fragment in them -/
def hits (fragment : String) (rows : List ProductRow) : List ProductRow :=
  rows.filter fun r => Text.Within fragment r.name

theorem matching_plain {rows : List ProductRow} (hne : fragment ≠ "") (hplain : Text.Plain fragment)
    (hshort : fragment.utf8ByteSize + 2 ≤ patternLimit) (hnames : ∀ r ∈ rows, '\x00' ∉ r.name.toList) :
    matching (Store.Products.pattern fragment) rows = .ok (hits fragment rows) := by
  have hsize := Text.utf8ByteSize_lower_of_ascii fun c hc => (hplain c hc).1
  rw [Store.matching_fragment hne (by rw [hsize]; exact hshort)]
  refine congrArg Except.ok (List.filter_congr fun r hr => ?_)
  exact decide_eq_decide.mpr (Store.like_fragment_iff hplain (hnames r hr))

/-- **A search for a plain fragment** finds the products whose names have the fragment in them. A
page is a window of these, and tells how many they are; it is read if the rows of the window can be.
All the pages together show each of them once, and nothing else. -/
theorem search_finds_fragment (hs : d.store = .embedded db) (hopen : db.closed = false)
    (ht : db.tables.products = some t) (hnames : ∀ r ∈ t.rows, '\x00' ∉ r.name.toList)
    (hne : Text.trim fragment ≠ "") (hplain : Text.Plain (Text.trim fragment))
    (hshort : (Text.trim fragment).utf8ByteSize + 2 ≤ patternLimit) :
    (∀ page p d', listProducts fragment page d = (.ok p, d') ↔ d' = d ∧
      p.number = page.number ∧ p.size = page.size ∧
      p.total = (hits (Text.trim fragment) t.rows).length ∧
      List.Forall₂ (fun row a => ProductRow.product? row = some a)
        (window page.size page.offset (hits (Text.trim fragment) t.rows)) p.content) ∧
    ∀ (s : ℕ) (pages : ℕ → Page Product), 1 ≤ s → t.rows.length < 2 ^ 63 →
      (∀ k : ℕ, k * s < (hits (Text.trim fragment) t.rows).length →
        listProducts fragment ⟨k, s⟩ d = (.ok (pages k), d)) →
      List.Forall₂ (fun row a => ProductRow.product? row = some a) (hits (Text.trim fragment) t.rows)
        ((List.range ((hits (Text.trim fragment) t.rows).length ⌈/⌉ s)).flatMap
          fun k => (pages k).content) := by
  have hpage := listProducts_matching hs hopen ht (matching_plain hne hplain hshort hnames)
  refine ⟨hpage, fun s pages hsize hrows hread => ?_⟩
  refine Store.windows_show hsize ((List.length_filter_le _ _).trans_lt hrows) fun k hk => ?_
  exact ((hpage _ _ _).mp (hread k hk)).2.2.2.2

end

/-- a search for a part of two names, in other case and with blanks around it -/
theorem search_shelf : ∃ p, listProducts " APP " ⟨0, 10⟩
      { shopWith {} {} with store := .embedded Store.shelf }
        = (.ok p, { shopWith {} {} with store := .embedded Store.shelf }) ∧ p.total = 2 ∧
    p.content.map Product.name = ["Apple", "Pineapple"] := by
  have hne : Text.trim " APP " ≠ "" := by decide +kernel
  obtain ⟨hpage, -⟩ := search_finds_fragment
    (d := { shopWith {} {} with store := .embedded Store.shelf }) rfl rfl rfl (by decide) hne
    (by decide +kernel) (by decide +kernel)
  have hvalue : ((listProducts " APP " ⟨0, 10⟩).value?
      { shopWith {} {} with store := .embedded Store.shelf }).map (fun p => p.content.map Product.name)
        = some ["Apple", "Pineapple"] := by decide +kernel
  obtain ⟨p, hp, hnames⟩ := Option.map_eq_some_iff.mp hvalue
  have hread := Action.ok_of_value? hp
  obtain ⟨hsame, -, -, htotal, -⟩ := (hpage _ _ _).mp hread
  rw [hsame] at hread
  exact ⟨p, hread, htotal, hnames⟩

/-! ## the names of products -/

/-- the name that a call gives to a product -/
def Request.productName? : Request → Option String
  | .change (.createProduct draft) | .change (.updateProduct _ _ draft) => some draft.name
  | _ => none

theorem ProductDraft.check_name {draft new : ProductDraft} (h : draft.check = .ok new) :
    new.name = Text.trim draft.name := by
  unfold ProductDraft.check at h
  obtain ⟨name, hname, h⟩ := Store.bind_ok_iff.mp h
  split at h
  · cases h
  split at h
  · cases h
  · rw [← Except.ok.inj h]
    exact (checkName_ok_iff.mp hname).1

section
variable {limit : Decimal} {now : Stamp} {ts ts' : Tables} {r : Request} {c : Change}
  {P : String → Prop}

theorem Served.productNames {t t' : Table ProductRow} {done : List ItemRequest}
    (hv : Served now t done t') (hkeyed : t.Keyed) (h : ∀ row ∈ t.rows, P row.name) :
    ∀ row ∈ t'.rows, P row.name := by
  intro row hrow
  have hget : t'.get? (HasId.id row) = some row :=
    Table.get?_of_mem (hv.keyed hkeyed).unique hrow
  by_cases hn : Named (HasId.id row) done
  · obtain ⟨row₀, p, hget₀, hp, -, hrow'⟩ := hv.named _ hn
    obtain ⟨-, hname, -⟩ := ProductRow.product?_eq_some_iff.mp hp
    rw [Option.some.inj (hget.symm.trans hrow')]
    exact hname ▸ h row₀ (Table.get?_some hget₀).1
  · rw [hv.other _ hn] at hget
    exact h row (Table.get?_some hget).1

/-- **What is true of the names that are given** is true of the names there. -/
theorem Does.productNames (hsound : ts.Sound limit) (h : Does limit now ts r c ts')
    (hnew : ∀ name ∈ r.productName?, P (Text.trim name))
    (hold : ∀ t, ts.products = some t → ∀ row ∈ t.rows, P row.name) :
    ∀ t, ts'.products = some t → ∀ row ∈ t.rows, P row.name := by
  intro t' ht' row hrow
  cases h with
  | placed ht _ _ _ hplaced =>
    rw [← Option.some.inj ht'] at hrow
    exact hplaced.served.productNames (hsound.kept.products _ ht) (hold _ ht) row hrow
  | stocked hcheck ht =>
    rw [← Option.some.inj ht'] at hrow
    rcases List.mem_append.mp hrow with hrow | hrow
    · exact hold _ ht row hrow
    · rw [List.mem_singleton.mp hrow]
      exact ProductDraft.check_name hcheck ▸ hnew _ rfl
  | restocked hcheck ht =>
    rw [← Option.some.inj ht'] at hrow
    obtain ⟨row₀, hrow₀, ⟨-, rfl⟩ | ⟨-, rfl⟩⟩ := Table.mem_update hrow
    · exact ProductDraft.check_name hcheck ▸ hnew _ rfl
    · exact hold _ ht row hrow₀
  | unstocked ht =>
    rw [← Option.some.inj ht'] at hrow
    exact hold _ ht row (Table.mem_erase.mp hrow).1
  | idle | moved | erased | filed => exact hold t' ht' row hrow

end

/-- An open engine at rest with sound tables, where something is true of all names of products. -/
def Christened (P : String → Prop) (b : Backend) : Prop :=
  ∃ limit db t, b = .embedded db ∧ db.closed = false ∧ db.saved = none ∧ db.tables.Sound limit ∧
    db.tables.products = some t ∧ ∀ r ∈ t.rows, P r.name

namespace Christened

variable {P : String → Prop} {b : Backend}

theorem fresh : Christened P Store.fresh :=
  ⟨.zero, _, {}, Store.fresh_eq, rfl, rfl, ⟨⟨_, rfl, Store.Stocked.empty⟩, _, _, rfl, rfl,
    Store.Booked.empty .zero⟩, rfl, fun _ h => absurd h List.not_mem_nil⟩

/-- **One call** keeps it so, whatever it ends in. -/
theorem callAt (h : Christened P b) (c : Desk × Request)
    (hnew : ∀ name ∈ c.2.productName?, P (Text.trim name)) :
    Christened P (callAt b c).2.store := by
  obtain ⟨limit, db, t, rfl, hopen, hrest, hsound, ht, hnames⟩ := h
  obtain ⟨d, r⟩ := c
  obtain ⟨change, limit', ts, hle, -, hdoes, hstore⟩ :=
    r.does (d := { d with store := .embedded db }) rfl hrest hsound.kept
  have hsound' : db.tables.Sound limit' := hsound.mono hle
  obtain ⟨t', ht', -⟩ := (hdoes.sound hsound').products
  refine ⟨limit', _, t', hstore, hopen, hrest, hdoes.sound hsound', ht', ?_⟩
  refine hdoes.productNames hsound' hnew (fun t₁ ht₁ => ?_) t' ht'
  rwa [← Option.some.inj (ht.symm.trans ht₁)]

/-- **Every run of calls** does. -/
theorem after (h : Christened P b) {calls : List (Desk × Request)}
    (hnew : ∀ c ∈ calls, ∀ name ∈ c.2.productName?, P (Text.trim name)) :
    Christened P (after b calls) := by
  induction calls generalizing b with
  | nil => exact h
  | cons c calls ih =>
    exact ih (h.callAt c (hnew c List.mem_cons_self)) fun x hx => hnew x (List.mem_cons_of_mem _ hx)

end Christened

theorem trim_subset {s : String} {c : Char} (h : c ∈ (Text.trim s).toList) : c ∈ s.toList := by
  rw [Text.trim, String.toList_ofList] at h
  exact (Text.trimChars_sublist s.toList).subset h

/-! ## own names -/

/-- **Which products are found by their own names.** After every run of calls on a new store that give
no product a name with a NUL, the first page of a search for the name of a product, with room for
all products, shows it exactly if

* both lower cases of the name agree: that of all letters, and that of the letters of ASCII;
* every row that the search finds can be read. -/
theorem found_by_own_name_iff (calls : List (Desk × Request))
    (hcalls : ∀ c ∈ calls, ∀ name ∈ c.2.productName?, '\x00' ∉ name.toList) :
    ∃ db t, after Store.fresh calls = .embedded db ∧ db.tables.products = some t ∧
      ∀ (d : Desk) (r : ProductRow) (size : Int), d.store = .embedded db → r ∈ t.rows →
        t.rows.length ≤ size →
        ((∃ p d' a, listProducts r.name ⟨0, size⟩ d = (.ok p, d') ∧ a ∈ p.content ∧
            r.product? = some a) ↔
          (∀ c ∈ r.name.toList, Text.lowerChar c = Text.asciiLowerChar c) ∧
          ∀ row ∈ t.rows, row.Matches r.name → row.product?.isSome) := by
  obtain ⟨limit, db, t, hdb, hopen, hrest, hsound, ht, hnames⟩ :=
    (Christened.fresh (P := fun name => '\x00' ∉ name.toList)).after fun c hc name hname hnul =>
      hcalls c hc name hname (trim_subset hnul)
  refine ⟨db, t, hdb, ht, fun d r size hs hr hsize => ?_⟩
  obtain ⟨t₁, ht₁, hstocked⟩ := hsound.products
  obtain rfl : t = t₁ := Option.some.inj (ht.symm.trans ht₁)
  have hname := (hstocked.rows r hr).name
  have hshort : (Text.lower r.name).utf8ByteSize + 2 ≤ patternLimit := by
    have hlower := Text.utf8ByteSize_lower_le r.name
    have hlimit : patternLimit = 50000 := rfl
    have := hname.short
    omega
  have hmatch : matching _ t.rows = _ := Store.matching_fragment hname.nonempty hshort
  generalize hfilter : t.rows.filter (fun row => row.Matches r.name) = found at hmatch
  rw [← hname.trimmed] at hmatch
  have hmem : ∀ row, row ∈ found ↔ row ∈ t.rows ∧ row.Matches r.name := fun row => by
    simp [← hfilter, List.mem_filter]
  have hfound : found ⊆ t.rows := fun row hrow => ((hmem row).mp hrow).1
  have hroom : found.length ≤ size := by
    have hle : found.length ≤ t.rows.length := hfilter ▸ List.length_filter_le _ _
    omega
  have hown : r.Matches r.name ↔ ∀ c ∈ r.name.toList, Text.lowerChar c = Text.asciiLowerChar c :=
    Store.like_own_iff (hnames r hr)
  rw [shown_first_iff hs hopen ht hmatch hstocked.keyed.unique hfound hroom hr,
    hmem, ← hown, and_iff_right hr]
  exact and_congr_right' (forall_congr' fun row => by rw [hmem, and_imp])

/-- two products: the name of one begins with a capital beyond ASCII, that of the other has marks -/
def bakery : List (Desk × Request) :=
  [(shopWith {} {}, .change (.createProduct ⟨"Éclair", .ofInt 1, 50⟩)),
    (shopWith {} {}, .change (.createProduct ⟨"50%_Pie", .ofInt 3, 9⟩))]

def bakeryDesk : Desk := { shopWith {} {} with store := after Store.fresh bakery }

theorem bakeryDesk_store : bakeryDesk.store = after Store.fresh bakery := by
  simp only [bakeryDesk]

theorem bakery_rows : (tablesOf bakeryDesk.store).products.map
      (fun t => t.rows.map fun r => (r.name, r.product?.isSome))
    = some [("Éclair", true), ("50%_Pie", true)] := by decide +kernel

/-- the first one is not found by its name, although it is there -/
theorem eclair_not_found :
    (tablesOf bakeryDesk.store).products.map (fun t => t.rows.map ProductRow.name)
      = some ["Éclair", "50%_Pie"] ∧
    ((listProducts "Éclair" ⟨0, 10⟩).value? bakeryDesk).map (fun p => (p.total, p.content.length))
      = some (0, 0) := by
  refine ⟨?_, by decide +kernel⟩
  obtain ⟨t, ht, hrows⟩ := Option.map_eq_some_iff.mp bakery_rows
  have hfst := congrArg (List.map Prod.fst) hrows
  rw [List.map_map] at hfst
  rw [ht]
  exact congrArg some hfst

/-- the second one is, and the first one is not -/
theorem bakery_own_names : ∃ db t r₁ r₂, bakeryDesk.store = .embedded db ∧
    db.tables.products = some t ∧ t.rows = [r₁, r₂] ∧ r₁.name = "Éclair" ∧ r₂.name = "50%_Pie" ∧
    (¬ ∃ p d' a, listProducts "Éclair" ⟨0, 10⟩ bakeryDesk = (.ok p, d') ∧ a ∈ p.content ∧
      r₁.product? = some a) ∧
    ∃ p d' a, listProducts "50%_Pie" ⟨0, 10⟩ bakeryDesk = (.ok p, d') ∧ a ∈ p.content ∧
      r₂.product? = some a := by
  obtain ⟨db, t, hdb, ht, hfound⟩ := found_by_own_name_iff bakery (by decide +kernel)
  have hstore : bakeryDesk.store = .embedded db := bakeryDesk_store.trans hdb
  have hrows := bakery_rows
  rw [hstore, show tablesOf (.embedded db) = db.tables from rfl, ht] at hrows
  obtain ⟨r₁, rest, hlist, hr₁, hrest⟩ := List.map_eq_cons_iff.mp (Option.some.inj hrows)
  obtain ⟨r₂, rest, rfl, hr₂, hrest⟩ := List.map_eq_cons_iff.mp hrest
  obtain rfl := List.map_eq_nil_iff.mp hrest
  obtain ⟨hname₁, hread₁⟩ := Prod.mk.inj hr₁
  obtain ⟨hname₂, hread₂⟩ := Prod.mk.inj hr₂
  have hiff₁ := hfound bakeryDesk r₁ 10 hstore (by simp [hlist]) (by simp [hlist])
  have hiff₂ := hfound bakeryDesk r₂ 10 hstore (by simp [hlist]) (by simp [hlist])
  rw [hname₁] at hiff₁
  rw [hname₂] at hiff₂
  have hdiffer : ¬ ∀ c ∈ "Éclair".toList, Text.lowerChar c = Text.asciiLowerChar c := fun h =>
    absurd (h 'É' (by decide +kernel)) (by decide +kernel)
  have hascii : "50%_Pie".toList.all (fun c => c.toNat < 0x80) := by decide +kernel
  have hagree : ∀ c ∈ "50%_Pie".toList, Text.lowerChar c = Text.asciiLowerChar c := fun c hc =>
    Text.lowerChar_of_ascii (of_decide_eq_true (List.all_eq_true.mp hascii c hc))
  have hlegible : ∀ row ∈ t.rows, row.product?.isSome := by
    intro row hrow
    rw [hlist] at hrow
    rcases List.mem_cons.mp hrow with rfl | hrow
    · exact hread₁
    · rw [List.mem_singleton.mp hrow]
      exact hread₂
  have hmissed := fun h => hdiffer (hiff₁.mp h).1
  have hshown := hiff₂.mpr ⟨hagree, fun row hrow _ => hlegible row hrow⟩
  exact ⟨db, t, r₁, r₂, hstore, ht, hlist, hname₁, hname₂, hmissed, hshown⟩

end Desk

end OrderDesk
