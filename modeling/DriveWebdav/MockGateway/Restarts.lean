import DriveWebdav.MockGateway.Snapshot

/-! # A restart keeps the tree

Restoring what was serialized gives back every folder, file and draft at its path. -/

namespace DriveWebdav

/-- A date that a text can name. -/
def Date.IsValid (date : Date) : Prop :=
  ∃ milliseconds, date.toISOString = some milliseconds ∧
    Date.ofMilliseconds (some milliseconds) = date

namespace MockGateway

/-- A file carries a valid date. -/
def Dated : Kind MockLeaf → Prop
  | .leaf (.file file) => file.mtime.IsValid
  | _ => True

/-- A tree in which every entry can be named by a path, and every date be written down. -/
structure Tidy (root : MockEntries) : Prop where
  unique : root.Unique
  entries : root.All fun name kind => IsSegment name ∧ Dated kind

/-- Add one node to a snapshot. -/
def record (out : Snapshot) : List JsString × Kind MockLeaf → Option Snapshot
  | (path, .folder) => some { out with dirs := out.dirs ++ [absolute path] }
  | (path, .leaf (.file file)) =>
      file.mtime.toISOString.map fun mtime =>
        { out with
          files := out.files.set (absolute path) ⟨file.data, file.sha1, mtime, file.revisions⟩ }
  | (path, .leaf (.draft draft)) =>
      some { out with drafts := out.drafts.set (absolute path) draft }

variable {entries root : MockEntries} {above : JsString} {path : List JsString} {out : Snapshot}

theorem normalize_child {name : JsString} (located : segments above = path)
    (piece : IsSegment name) : normalize (above ++ '/' :: name) = absolute (path ++ [name]) := by
  rw [normalize, segments_append_slash, located, segments_of_isSegment piece]

/-- The walk records the nodes one by one. -/
theorem walk_eq (named : entries.All fun name kind => IsSegment name ∧ Dated kind)
    (located : segments above = path) (pieces : ∀ s ∈ path, IsSegment s) :
    walk entries above out = (entries.contents path).foldlM record out := by
  induction entries generalizing above path out with
  | nil => rfl
  | leaf name value rest induction =>
      have child := normalize_child located named.1.1
      cases value with
      | file file =>
          rw [walk, Entries.contents, List.foldlM_cons, record, child]
          cases file.mtime.toISOString with
          | none => rfl
          | some mtime => exact induction named.2 located pieces
      | draft draft =>
          rw [walk, Entries.contents, List.foldlM_cons, record, child]
          exact induction named.2 located pieces
  | folder name info children rest induction others =>
      have child := normalize_child located named.1.1
      have inside : ∀ s ∈ path ++ [name], IsSegment s := by
        intro s member
        rcases List.mem_append.mp member with member | member
        · exact pieces s member
        · rw [List.mem_singleton.mp member]
          exact named.1.1
      rw [walk, Entries.contents, List.foldlM_cons, record, child,
        induction named.2.1 (segments_absolute inside) inside]
      have later : walk rest above = fun out => (rest.contents path).foldlM record out := by
        funext out
        exact others named.2.2 located pieces
      rw [later, Option.bind_eq_bind, Option.bind_some, List.foldlM_append]
      rfl

/-- What the nodes of a list are written down as. -/
structure Recorded (items : List (List JsString × Kind MockLeaf)) (snapshot : Snapshot) :
    Prop where
  dirs : ∀ p, p ∈ snapshot.dirs ↔ ∃ path, (path, .folder) ∈ items ∧ p = absolute path
  files : ∀ p saved, snapshot.files.get p = some saved ↔ ∃ path file,
    (path, .leaf (.file file)) ∈ items ∧ p = absolute path ∧ saved.toFile = file ∧
      file.mtime.toISOString = some saved.mtime
  drafts : ∀ p draft, snapshot.drafts.get p = some draft ↔ ∃ path,
    (path, .leaf (.draft draft)) ∈ items ∧ p = absolute path

/-- No two of the nodes are written down under one path. -/
def Apart (items : List (List JsString × Kind MockLeaf)) : Prop :=
  ∀ first ∈ items, ∀ second ∈ items, absolute first.1 = absolute second.1 → first = second

/-- What was recorded at a path is the one node of that path. -/
theorem Apart.last {items : List (List JsString × Kind MockLeaf)}
    {item other : List JsString × Kind MockLeaf} (apart : Apart (items ++ [item]))
    (member : other ∈ items ++ [item]) (same : absolute other.1 = absolute item.1) :
    other = item :=
  apart other member item (List.mem_append_right _ List.mem_cons_self) same

theorem mem_of_ne {items : List (List JsString × Kind MockLeaf)}
    {item other : List JsString × Kind MockLeaf} (member : other ∈ items ++ [item])
    (different : absolute other.1 ≠ absolute item.1) : other ∈ items := by
  rcases List.mem_append.mp member with member | member
  · exact member
  · rw [List.mem_singleton.mp member] at different
    exact absurd rfl different

theorem saved_iff {file : MockFile} {saved : SavedFile} {mtime : Int}
    (named : file.mtime.toISOString = some mtime)
    (valid : Date.ofMilliseconds (some mtime) = file.mtime) :
    saved = ⟨file.data, file.sha1, mtime, file.revisions⟩ ↔
      saved.toFile = file ∧ file.mtime.toISOString = some saved.mtime := by
  constructor
  · rintro rfl
    exact ⟨by rw [SavedFile.toFile, valid], named⟩
  · rintro ⟨rfl, again⟩
    rcases saved with ⟨data, sha1, same, revisions⟩
    rw [named] at again
    cases again
    rfl

theorem record_adds {items : List (List JsString × Kind MockLeaf)}
    {item : List JsString × Kind MockLeaf} (recorded : Recorded items out)
    (apart : Apart (items ++ [item])) (dated : Dated item.2) :
    ∃ next, record out item = some next ∧ Recorded (items ++ [item]) next := by
  rcases item with ⟨path, kind⟩
  cases kind with
  | folder =>
      refine ⟨_, rfl, ?_, ?_, ?_⟩
      · intro p
        rw [List.mem_append, recorded.dirs, List.mem_singleton]
        constructor
        · intro present
          rcases present with ⟨before, member, same⟩ | same
          · exact ⟨before, List.mem_append_left _ member, same⟩
          · exact ⟨path, List.mem_append_right _ List.mem_cons_self, same⟩
        · intro present
          rcases present with ⟨before, member, same⟩
          rcases List.mem_append.mp member with member | member
          · exact .inl ⟨before, member, same⟩
          · cases List.mem_singleton.mp member
            exact .inr same
      · intro p saved
        rw [recorded.files]
        simp only [List.mem_append, List.mem_singleton, Prod.mk.injEq, reduceCtorEq, and_false,
          or_false]
      · intro p draft
        rw [recorded.drafts]
        simp only [List.mem_append, List.mem_singleton, Prod.mk.injEq, reduceCtorEq, and_false,
          or_false]
  | leaf value =>
      cases value with
      | file file =>
          rcases dated with ⟨mtime, named, valid⟩
          refine ⟨_, by rw [record, named]; rfl, ?_, ?_, ?_⟩
          · intro p
            rw [recorded.dirs]
            simp only [List.mem_append, List.mem_singleton, Prod.mk.injEq, reduceCtorEq, and_false,
              or_false]
          · intro p saved
            by_cases here : p = absolute path
            · rw [here, InsertionMap.get_set_self, Option.some.injEq, eq_comm,
                saved_iff named valid]
              constructor
              · intro holds
                exact ⟨path, file, List.mem_append_right _ List.mem_cons_self, rfl, holds⟩
              · intro present
                rcases present with ⟨other, content, member, same, holds⟩
                cases apart.last member same.symm
                exact holds
            · rw [InsertionMap.get_set_of_ne _ _ here, recorded.files]
              constructor
              · intro present
                rcases present with ⟨other, content, member, holds⟩
                exact ⟨other, content, List.mem_append_left _ member, holds⟩
              · intro present
                rcases present with ⟨other, content, member, same, holds⟩
                rw [same] at here
                exact ⟨other, content, mem_of_ne member here, same, holds⟩
          · intro p draft
            rw [recorded.drafts]
            simp only [List.mem_append, List.mem_singleton, Prod.mk.injEq, Kind.leaf.injEq,
              reduceCtorEq, and_false, or_false]
      | draft draft =>
          refine ⟨_, rfl, ?_, ?_, ?_⟩
          · intro p
            rw [recorded.dirs]
            simp only [List.mem_append, List.mem_singleton, Prod.mk.injEq, reduceCtorEq, and_false,
              or_false]
          · intro p saved
            rw [recorded.files]
            simp only [List.mem_append, List.mem_singleton, Prod.mk.injEq, Kind.leaf.injEq,
              reduceCtorEq, and_false, or_false]
          · intro p content
            by_cases here : p = absolute path
            · rw [here, InsertionMap.get_set_self, Option.some.injEq]
              constructor
              · intro same
                rw [← same]
                exact ⟨path, List.mem_append_right _ List.mem_cons_self, rfl⟩
              · intro present
                rcases present with ⟨other, member, same⟩
                cases apart.last member same.symm
                rfl
            · rw [InsertionMap.get_set_of_ne _ _ here, recorded.drafts]
              constructor
              · intro present
                rcases present with ⟨other, member, same⟩
                exact ⟨other, List.mem_append_left _ member, same⟩
              · intro present
                rcases present with ⟨other, member, same⟩
                rw [same] at here
                exact ⟨other, mem_of_ne member here, same⟩

theorem recorded_all {before items : List (List JsString × Kind MockLeaf)}
    (recorded : Recorded before out) (apart : Apart (before ++ items))
    (dated : ∀ item ∈ items, Dated item.2) :
    ∃ snapshot, items.foldlM record out = some snapshot ∧ Recorded (before ++ items) snapshot := by
  induction items generalizing before out with
  | nil =>
      rw [List.append_nil]
      exact ⟨out, rfl, recorded⟩
  | cons item items induction =>
      rw [List.append_cons] at apart ⊢
      have here : Apart (before ++ [item]) := fun first inFirst second inSecond same =>
        apart first (List.mem_append_left _ inFirst) second (List.mem_append_left _ inSecond) same
      rcases record_adds recorded here (dated item List.mem_cons_self) with ⟨next, added, holds⟩
      rcases induction holds apart fun other member =>
        dated other (List.mem_cons_of_mem _ member) with ⟨snapshot, rest, complete⟩
      refine ⟨snapshot, ?_, complete⟩
      rw [List.foldlM_cons, added]
      exact rest

theorem Tidy.pieces (tidy : Tidy root) {kind : Kind MockLeaf}
    (found : root.kindAt path = some kind) : ∀ s ∈ path, IsSegment s := by
  apply tidy.entries.mem fun name kind holds => holds.1
  rw [found]
  rfl

theorem Tidy.mem_contents (tidy : Tidy root) {kind : Kind MockLeaf} :
    (path, kind) ∈ root.contents [] ↔ path ≠ [] ∧ root.kindAt path = some kind := by
  rw [Entries.mem_contents tidy.unique]
  constructor
  · intro found
    rcases found with ⟨later, nonempty, same, found⟩
    rw [same]
    exact ⟨nonempty, found⟩
  · intro found
    exact ⟨path, found.1, rfl, found.2⟩

theorem Tidy.dated (tidy : Tidy root) {kind : Kind MockLeaf} (inside : path ≠ [])
    (found : root.kindAt path = some kind) : Dated kind := by
  rw [← List.dropLast_concat_getLast inside] at found
  exact (tidy.entries.kindAt found).2

/-- Every tidy tree can be written down. -/
theorem serialize_recorded (gateway : MockGateway) (tidy : Tidy gateway.root) :
    ∃ snapshot, gateway.serialize = some snapshot ∧
      Recorded (gateway.root.contents []) snapshot := by
  have apart : Apart ([] ++ gateway.root.contents []) := by
    rintro ⟨first, firstKind⟩ inFirst ⟨second, secondKind⟩ inSecond same
    rw [List.nil_append] at inFirst inSecond
    have one := (tidy.mem_contents.mp inFirst).2
    have two := (tidy.mem_contents.mp inSecond).2
    have equal : first = second := by
      rw [← segments_absolute (tidy.pieces one), ← segments_absolute (tidy.pieces two)]
      exact congrArg segments same
    rw [equal, two] at one
    rw [equal, Option.some.inj one]
  have dated : ∀ item ∈ gateway.root.contents [], Dated item.2 := by
    rintro ⟨path, kind⟩ member
    rcases tidy.mem_contents.mp member with ⟨inside, found⟩
    exact tidy.dated inside found
  have empty : Recorded [] ⟨[], .empty, .empty, gateway.usedBytes⟩ := by
    constructor
    · intro p
      simp only [List.not_mem_nil, false_and, exists_false]
    · intro p saved
      simp only [InsertionMap.get_empty, reduceCtorEq, List.not_mem_nil, false_and, exists_false]
    · intro p draft
      simp only [InsertionMap.get_empty, reduceCtorEq, List.not_mem_nil, false_and, exists_false]
  rcases recorded_all empty apart dated with ⟨snapshot, written, recorded⟩
  refine ⟨snapshot, ?_, recorded⟩
  rw [serialize, walk_eq tidy.entries rfl fun s member => absurd member List.not_mem_nil]
  exact written

/-! ## Putting back -/

variable {now : Date} {p : JsString} {leaf : MockLeaf}

/-- Folders that are there already need not be made. -/
theorem ensureDirs_present (now : Date) (folder : root.kindAt (segments p) = some .folder) :
    ∃ made, ensureDirs now p root = some made ∧ ∀ q, made.kindAt q = root.kindAt q := by
  have above : ∀ before, before <+: segments p → root.kindAt before = some .folder := by
    intro before begins
    rcases begins with ⟨later, same⟩
    cases later with
    | nil =>
        rw [List.append_nil] at same
        rw [same]
        exact folder
    | cons name later =>
        apply @Entries.kindAt_of_append _ _ _ _ name _ before later
        rw [same, folder]
        rfl
  have clear : ∀ before, before <+: segments p → ∀ value, root.kindAt before ≠ some (.leaf value) := by
    intro before begins value found
    rw [above before begins] at found
    cases found
  rcases Entries.exists_ensure now clear with ⟨made, equal⟩
  refine ⟨made, equal, ?_⟩
  intro q
  rw [Entries.kindAt_ensure equal]
  split
  · next begins => exact (above q begins).symm
  · rfl

theorem place_present (now : Date) (leaf : MockLeaf) (inside : segments p ≠ [])
    (folder : root.kindAt (segments (parentPath p)) = some .folder)
    (free : root.kindAt (segments p) ≠ some .folder) :
    ∃ placed, place now root p leaf = some placed ∧
      ∀ q, placed.kindAt q = if q = segments p then some (.leaf leaf) else root.kindAt q := by
  rcases ensureDirs_present now folder with ⟨made, equal, same⟩
  rw [← same] at folder
  rcases Entries.folderAt_of_kindAt folder with ⟨children, located⟩
  refine ⟨_, by rw [place, equal, Option.bind_some, located]; rfl, ?_⟩
  intro q
  rw [← same (segments p), segments_eq_concat inside] at free
  rw [segments_eq_concat inside, Entries.kindAt_modify_set located free, same]

theorem place_tidy {placed : MockEntries} (tidy : Tidy root) (dated : Dated (.leaf leaf))
    (inside : segments p ≠ []) (equal : place now root p leaf = some placed) : Tidy placed := by
  simp only [place, ensureDirs, Option.bind_eq_some_iff, Option.map_eq_some_iff] at equal
  rcases equal with ⟨made, equal, children, located, rfl⟩
  have named : ∀ name ∈ segments (parentPath p), IsSegment name ∧ Dated .folder :=
    fun _ member => ⟨isSegment_of_mem_segments member, trivial⟩
  constructor
  · apply (tidy.unique.ensure equal).modify
    intro children _ unique
    exact unique.set trivial
  · apply (tidy.entries.ensure named equal).modify
    intro children _ all
    apply all.set
    · exact ⟨isSegment_baseName inside, dated⟩
    · trivial

theorem ensureDirs_tidy {made : MockEntries} (tidy : Tidy root)
    (equal : ensureDirs now p root = some made) : Tidy made where
  unique := tidy.unique.ensure equal
  entries := tidy.entries.ensure
    (fun _ member => ⟨isSegment_of_mem_segments member, trivial⟩) equal

/-- Leaves that are put back one by one, each at a free path in a folder. -/
structure Fits (root : MockEntries) (items : List (JsString × MockLeaf)) : Prop where
  inside : ∀ item ∈ items, segments item.1 ≠ []
  folder : ∀ item ∈ items, root.kindAt (segments (parentPath item.1)) = some .folder
  free : ∀ item ∈ items, root.kindAt (segments item.1) = none
  dated : ∀ item ∈ items, Dated (.leaf item.2)
  apart : (items.map fun item => segments item.1).Nodup

theorem Fits.tail {item : JsString × MockLeaf} {items : List (JsString × MockLeaf)}
    (fits : Fits root (item :: items)) {placed : MockEntries}
    (placing : ∀ q, placed.kindAt q =
      if q = segments item.1 then some (.leaf item.2) else root.kindAt q) :
    Fits placed items where
  inside other member := fits.inside other (List.mem_cons_of_mem _ member)
  folder other member := by
    rw [placing, if_neg]
    · exact fits.folder other (List.mem_cons_of_mem _ member)
    · intro same
      have above := fits.folder other (List.mem_cons_of_mem _ member)
      rw [same, fits.free item List.mem_cons_self] at above
      cases above
  free other member := by
    rw [placing, if_neg]
    · exact fits.free other (List.mem_cons_of_mem _ member)
    · intro same
      apply (List.nodup_cons.mp fits.apart).1
      exact List.mem_map.mpr ⟨other, member, same⟩
  dated other member := fits.dated other (List.mem_cons_of_mem _ member)
  apart := (List.nodup_cons.mp fits.apart).2

theorem place_all (now : Date) {items : List (JsString × MockLeaf)} (tidy : Tidy root)
    (fits : Fits root items) :
    ∃ final, items.foldlM (fun root item => place now root item.1 item.2) root = some final ∧
      Tidy final ∧ ∀ q kind, final.kindAt q = some kind ↔
        root.kindAt q = some kind ∨ ∃ item ∈ items, segments item.1 = q ∧ kind = .leaf item.2 := by
  induction items generalizing root with
  | nil =>
      refine ⟨root, rfl, tidy, ?_⟩
      intro q kind
      simp only [List.not_mem_nil, false_and, exists_false, or_false]
  | cons item items induction =>
      have inside := fits.inside item List.mem_cons_self
      have free := fits.free item List.mem_cons_self
      have notFolder : root.kindAt (segments item.1) ≠ some .folder := by
        rw [free]
        intro same
        cases same
      rcases place_present now item.2 inside
        (fits.folder item List.mem_cons_self) notFolder with ⟨placed, equal, placing⟩
      have tidyPlaced := place_tidy tidy (fits.dated item List.mem_cons_self) inside equal
      rcases induction tidyPlaced (fits.tail placing) with ⟨final, rest, tidyFinal, found⟩
      refine ⟨final, ?_, tidyFinal, ?_⟩
      · rw [List.foldlM_cons, equal]
        exact rest
      · intro q kind
        rw [found, placing, List.exists_mem_cons_iff, ← or_assoc]
        apply or_congr_left
        by_cases here : q = segments item.1
        · rw [if_pos here, here, free]
          simp only [Option.some.injEq, reduceCtorEq, true_and, false_or]
          exact eq_comm
        · rw [if_neg here]
          constructor
          · exact .inl
          · intro present
            rcases present with present | ⟨same, _⟩
            · exact present
            · exact absurd same.symm here

/-- Folders are made one by one in a tree that has only folders. -/
theorem ensure_all (now : Date) (dirs : List JsString) (tidy : Tidy root)
    (only : ∀ q kind, root.kindAt q = some kind → kind = .folder) :
    ∃ final, dirs.foldlM (fun root path => ensureDirs now path root) root = some final ∧
      Tidy final ∧ ∀ q kind, final.kindAt q = some kind ↔
        root.kindAt q = some kind ∨ kind = .folder ∧ ∃ p ∈ dirs, q <+: segments p := by
  induction dirs generalizing root with
  | nil =>
      refine ⟨root, rfl, tidy, ?_⟩
      intro q kind
      simp only [List.not_mem_nil, false_and, exists_false, and_false, or_false]
  | cons p dirs induction =>
      have clear : ∀ before, before <+: segments p → ∀ value,
          root.kindAt before ≠ some (.leaf value) := by
        intro before _ value found
        cases only before _ found
      rcases Entries.exists_ensure now clear with ⟨made, equal⟩
      have found : ∀ q kind, made.kindAt q = some kind ↔
          root.kindAt q = some kind ∨ kind = .folder ∧ q <+: segments p := by
        intro q kind
        rw [Entries.kindAt_ensure equal]
        split
        · next begins =>
            constructor
            · intro same
              exact .inr ⟨(Option.some.inj same).symm, begins⟩
            · intro present
              rcases present with present | ⟨rfl, _⟩
              · rw [only q kind present]
              · rfl
        · next notBegins =>
            constructor
            · exact .inl
            · intro present
              rcases present with present | ⟨_, begins⟩
              · exact present
              · exact absurd begins notBegins
      have stillOnly : ∀ q kind, made.kindAt q = some kind → kind = .folder := by
        intro q kind present
        rcases (found q kind).mp present with present | ⟨same, _⟩
        · exact only q kind present
        · exact same
      rcases induction (ensureDirs_tidy tidy equal) stillOnly with
        ⟨final, rest, tidyFinal, foundLast⟩
      refine ⟨final, ?_, tidyFinal, ?_⟩
      · rw [List.foldlM_cons, ensureDirs, equal]
        exact rest
      · intro q kind
        rw [foundLast, found, List.exists_mem_cons_iff, or_assoc, ← and_or_left]

/-- The leaves of a tree that satisfy `select`, to be put back in a tree that has the nodes
that satisfy `seen`. -/
structure Missing (original root : MockEntries) (seen : Kind MockLeaf → Prop)
    (select : MockLeaf → Prop) (items : List (JsString × MockLeaf)) : Prop where
  there : ∀ q kind, root.kindAt q = some kind ↔ original.kindAt q = some kind ∧ seen kind
  folders : seen .folder
  unseen : ∀ leaf, select leaf → ¬ seen (.leaf leaf)
  listed : ∀ p leaf, (p, leaf) ∈ items ↔
    ∃ path, p = absolute path ∧ original.kindAt path = some (.leaf leaf) ∧ select leaf
  apart : (items.map Prod.fst).Nodup

theorem inside_of_leaf {original : MockEntries} {leaf : MockLeaf}
    (found : original.kindAt path = some (.leaf leaf)) : path ≠ [] := by
  rintro rfl
  cases found

theorem Missing.fits {original : MockEntries} {seen : Kind MockLeaf → Prop}
    {select : MockLeaf → Prop} {items : List (JsString × MockLeaf)} (tidy : Tidy original)
    (missing : Missing original root seen select items) : Fits root items := by
  have located : ∀ item ∈ items, ∃ path, item.1 = absolute path ∧ segments item.1 = path ∧
      original.kindAt path = some (.leaf item.2) ∧ select item.2 := by
    rintro ⟨p, leaf⟩ member
    rcases (missing.listed p leaf).mp member with ⟨path, same, found, selected⟩
    refine ⟨path, same, ?_, found, selected⟩
    rw [same]
    exact segments_absolute (tidy.pieces found)
  constructor
  · intro item member
    rcases located item member with ⟨path, _, same, found, _⟩
    rw [same]
    exact inside_of_leaf found
  · intro item member
    rcases located item member with ⟨path, _, same, found, _⟩
    have inside := inside_of_leaf found
    rw [segments_parentPath, same, missing.there]
    refine ⟨?_, missing.folders⟩
    rw [← List.dropLast_concat_getLast inside] at found
    apply @Entries.kindAt_of_append _ _ _ _ (path.getLast inside) _ path.dropLast []
    rw [found]
    rfl
  · intro item member
    rcases located item member with ⟨path, _, same, found, selected⟩
    rw [same, Option.eq_none_iff_forall_ne_some]
    intro kind present
    rw [missing.there, found] at present
    rcases present with ⟨equal, wasSeen⟩
    rw [← Option.some.inj equal] at wasSeen
    exact missing.unseen _ selected wasSeen
  · intro item member
    rcases located item member with ⟨path, _, same, found, _⟩
    exact tidy.dated (inside_of_leaf found) found
  · apply missing.apart.of_map.map_on
    intro first inFirst second inSecond same
    apply List.inj_on_of_nodup_map missing.apart inFirst inSecond
    rcases located first inFirst with ⟨path, firstAt, firstPath, _⟩
    rcases located second inSecond with ⟨other, secondAt, secondPath, _⟩
    rw [firstAt, secondAt, ← firstPath, ← secondPath, same]

theorem Missing.back (now : Date) {original : MockEntries} {seen : Kind MockLeaf → Prop}
    {select : MockLeaf → Prop} {items : List (JsString × MockLeaf)} (tidy : Tidy original)
    (tidyRoot : Tidy root) (missing : Missing original root seen select items) :
    ∃ final, items.foldlM (fun root item => place now root item.1 item.2) root = some final ∧
      Tidy final ∧ ∀ q kind, final.kindAt q = some kind ↔
        original.kindAt q = some kind ∧ (seen kind ∨ ∃ leaf, kind = .leaf leaf ∧ select leaf) := by
  rcases place_all now tidyRoot (missing.fits tidy) with ⟨final, equal, tidyFinal, found⟩
  refine ⟨final, equal, tidyFinal, ?_⟩
  intro q kind
  rw [found, missing.there]
  constructor
  · intro present
    rcases present with ⟨present, wasSeen⟩ | ⟨⟨p, leaf⟩, member, same, rfl⟩
    · exact ⟨present, .inl wasSeen⟩
    · rcases (missing.listed p leaf).mp member with ⟨path, named, inside, selected⟩
      have equal : q = path := by
        rw [← same, named]
        exact segments_absolute (tidy.pieces inside)
      rw [equal]
      exact ⟨inside, .inr ⟨leaf, rfl, selected⟩⟩
  · intro present
    rcases present with ⟨present, wasSeen | ⟨leaf, rfl, selected⟩⟩
    · exact .inl ⟨present, wasSeen⟩
    · refine .inr ⟨(absolute q, leaf), (missing.listed _ _).mpr ⟨q, rfl, present, selected⟩, ?_, rfl⟩
      exact segments_absolute (tidy.pieces present)

def isFile (leaf : MockLeaf) : Prop := ∃ file, leaf = .file file

def isDraft (leaf : MockLeaf) : Prop := ∃ draft, leaf = .draft draft

def fileItems (snapshot : Snapshot) : List (JsString × MockLeaf) :=
  snapshot.files.entries.map fun entry => (entry.1, .file entry.2.toFile)

def draftItems (snapshot : Snapshot) : List (JsString × MockLeaf) :=
  snapshot.drafts.entries.map fun entry => (entry.1, .draft entry.2)

theorem mem_fileItems {snapshot : Snapshot} (tidy : Tidy root)
    (recorded : Recorded (root.contents []) snapshot) (p : JsString) (leaf : MockLeaf) :
    (p, leaf) ∈ fileItems snapshot ↔
      ∃ path, p = absolute path ∧ root.kindAt path = some (.leaf leaf) ∧ isFile leaf := by
  constructor
  · intro member
    rcases List.mem_map.mp member with ⟨⟨q, saved⟩, stored, same⟩
    cases same
    have found := (InsertionMap.get_eq_some_iff _ _ _).mpr stored
    rcases (recorded.files _ _).mp found with ⟨path, file, inside, named, same, _⟩
    rw [same]
    exact ⟨path, named, (tidy.mem_contents.mp inside).2, file, rfl⟩
  · intro present
    rcases present with ⟨path, rfl, found, file, rfl⟩
    rcases tidy.dated (inside_of_leaf found) found with ⟨mtime, named, valid⟩
    have saves := (saved_iff named valid).mp rfl
    have member := tidy.mem_contents.mpr ⟨inside_of_leaf found, found⟩
    have written := (recorded.files (absolute path) _).mpr ⟨path, file, member, rfl, saves⟩
    refine List.mem_map.mpr ⟨_, (InsertionMap.get_eq_some_iff _ _ _).mp written, ?_⟩
    rw [saves.1]

theorem mem_draftItems {snapshot : Snapshot} (tidy : Tidy root)
    (recorded : Recorded (root.contents []) snapshot) (p : JsString) (leaf : MockLeaf) :
    (p, leaf) ∈ draftItems snapshot ↔
      ∃ path, p = absolute path ∧ root.kindAt path = some (.leaf leaf) ∧ isDraft leaf := by
  constructor
  · intro member
    rcases List.mem_map.mp member with ⟨⟨q, draft⟩, stored, same⟩
    cases same
    have found := (InsertionMap.get_eq_some_iff _ _ _).mpr stored
    rcases (recorded.drafts _ _).mp found with ⟨path, inside, named⟩
    exact ⟨path, named, (tidy.mem_contents.mp inside).2, draft, rfl⟩
  · intro present
    rcases present with ⟨path, rfl, found, draft, rfl⟩
    have member := tidy.mem_contents.mpr ⟨inside_of_leaf found, found⟩
    have written := (recorded.drafts (absolute path) draft).mpr ⟨path, member, rfl⟩
    exact List.mem_map.mpr ⟨_, (InsertionMap.get_eq_some_iff _ _ _).mp written, rfl⟩

/-- The folders of a snapshot, made in an empty tree, are the folders of the tree. -/
theorem restoreDirs_there (now : Date) {original : MockEntries} {snapshot : Snapshot}
    (tidy : Tidy original)
    (recorded : Recorded (original.contents []) snapshot) :
    ∃ folders, restoreDirs now snapshot = some folders ∧ Tidy folders ∧
      ∀ q kind, folders.kindAt q = some kind ↔ original.kindAt q = some kind ∧ kind = .folder := by
  have empty : Tidy Entries.nil := ⟨trivial, trivial⟩
  have onlyRoot : ∀ q kind, (Entries.nil : MockEntries).kindAt q = some kind →
      q = [] ∧ kind = .folder := by
    intro q kind found
    rw [Entries.kindAt_nil, Option.ite_none_right_eq_some] at found
    exact ⟨found.1, (Option.some.inj found.2).symm⟩
  rcases ensure_all now snapshot.dirs empty
    (fun q kind found => (onlyRoot q kind found).2) with ⟨folders, made, tidyFolders, inFolders⟩
  refine ⟨folders, made, tidyFolders, ?_⟩
  intro q kind
  rw [inFolders]
  constructor
  · intro present
    rcases present with present | ⟨rfl, p, member, begins⟩
    · rcases onlyRoot q kind present with ⟨rfl, rfl⟩
      exact ⟨rfl, rfl⟩
    · rcases (recorded.dirs p).mp member with ⟨path, inside, rfl⟩
      have found := (tidy.mem_contents.mp inside).2
      rw [segments_absolute (tidy.pieces found)] at begins
      refine ⟨?_, rfl⟩
      rcases begins with ⟨later, rfl⟩
      cases later with
      | nil =>
          rw [List.append_nil] at found
          exact found
      | cons name later =>
          apply @Entries.kindAt_of_append _ _ _ _ name _ q later
          rw [found]
          rfl
  · intro present
    rcases present with ⟨present, rfl⟩
    by_cases here : q = []
    · rw [here]
      exact .inl rfl
    · have member := tidy.mem_contents.mpr ⟨here, present⟩
      refine .inr ⟨rfl, absolute q, (recorded.dirs _).mpr ⟨q, member, rfl⟩, ?_⟩
      exact (segments_absolute (tidy.pieces present)).symm ▸ List.prefix_rfl

/-- The snapshot of a tree, put back, is a tree with the same node at every path. -/
theorem restore_snapshot (now : Date) {gateway : MockGateway} {snapshot : Snapshot}
    (tidy : Tidy gateway.root) (recorded : Recorded (gateway.root.contents []) snapshot)
    (other : MockGateway) :
    ∃ final, restore now other snapshot =
        some { other with root := final, usedBytes := snapshot.usedBytes } ∧
      Tidy final ∧ ∀ q, final.kindAt q = gateway.root.kindAt q := by
  rcases restoreDirs_there now tidy recorded with ⟨folders, madeFolders, tidyFolders, folder⟩
  have files : Missing gateway.root folders (· = .folder) isFile (fileItems snapshot) := by
    refine ⟨folder, rfl, ?_, mem_fileItems tidy recorded, ?_⟩
    · intro leaf _ same
      cases same
    · rw [fileItems, List.map_map]
      exact snapshot.files.nodup
  rcases files.back now tidy tidyFolders with ⟨withFiles, madeFiles, tidyFiles, file⟩
  have drafts : Missing gateway.root withFiles
      (fun kind => kind = .folder ∨ ∃ leaf, kind = .leaf leaf ∧ isFile leaf) isDraft
      (draftItems snapshot) := by
    refine ⟨file, .inl rfl, ?_, mem_draftItems tidy recorded, ?_⟩
    · rintro leaf ⟨draft, rfl⟩ wasSeen
      rcases wasSeen with same | ⟨leaf, same, content, rfl⟩
      · cases same
      · cases same
    · rw [draftItems, List.map_map]
      exact snapshot.drafts.nodup
  rcases drafts.back now tidy tidyFiles with ⟨final, madeDrafts, tidyFinal, all⟩
  refine ⟨final, ?_, tidyFinal, ?_⟩
  · rw [restore, madeFolders, Option.bind_some, restoreFiles]
    rw [fileItems, List.foldlM_map] at madeFiles
    rw [madeFiles, Option.bind_some, restoreDrafts]
    rw [draftItems, List.foldlM_map] at madeDrafts
    rw [madeDrafts]
    rfl
  · intro q
    apply Option.ext
    intro kind
    rw [all]
    constructor
    · exact fun present => present.1
    · intro present
      refine ⟨present, ?_⟩
      cases kind with
      | folder => exact .inl (.inl rfl)
      | leaf leaf =>
          cases leaf with
          | file content => exact .inl (.inr ⟨_, rfl, content, rfl⟩)
          | draft draft => exact .inr ⟨_, rfl, draft, rfl⟩

/-- A restart is always possible, and finds everything where it was. -/
theorem restart_tidy {before : MockGateway} (tidy : Tidy before.root) (now : Date) :
    ∃ next, before.restart now = some next ∧ next.clientUid = before.clientUid ∧
      Tidy next.root ∧ ∀ q, next.root.kindAt q = before.root.kindAt q := by
  rcases serialize_recorded before tidy with ⟨snapshot, written, recorded⟩
  rcases restore_snapshot now tidy recorded ⟨before.clientUid, .nil, .none, 0⟩ with
    ⟨final, restored, tidyFinal, same⟩
  refine ⟨⟨before.clientUid, final, .none, snapshot.usedBytes⟩, ?_, rfl, tidyFinal, same⟩
  rw [restart, written]
  exact restored

end MockGateway

end DriveWebdav
