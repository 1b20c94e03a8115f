import SchemaExport.Document.Reader
import SchemaExport.Proofs.Json.Numeral
import SchemaExport.Proofs.Record
import SchemaExport.Proofs.Text

/-! What is known of the nodes of a document that was read.

The text can spell integers of any size and the same key twice. What is read from it has only integers
of 64 bits, and once it has become nodes no record has a key twice.
-/

set_option autoImplicit false

namespace SchemaExport

/-! ## Data -/

namespace Json

mutual

/-- A condition on data and on everything in it. -/
def Everywhere (Holds : Json → Prop) : Json → Prop
  | .list items => Holds (.list items) ∧ EverywhereIn Holds items
  | .object entries => Holds (.object entries) ∧ EverywhereUnder Holds entries
  | data => Holds data

def EverywhereIn (Holds : Json → Prop) : List Json → Prop
  | [] => True
  | item :: rest => Everywhere Holds item ∧ EverywhereIn Holds rest

def EverywhereUnder (Holds : Json → Prop) : Entries Json → Prop
  | [] => True
  | (_, value) :: rest => Everywhere Holds value ∧ EverywhereUnder Holds rest

end

theorem everywhereUnder_iff {Holds : Json → Prop} {entries : Entries Json} :
    EverywhereUnder Holds entries ↔ ∀ entry ∈ entries, entry.2.Everywhere Holds := by
  induction entries with
  | nil => simp [EverywhereUnder]
  | cons entry rest ih => simp [EverywhereUnder, ih]

/-- Integers have 64 bits. -/
def Fits : Json → Prop
  | .number value => Bounded value
  | _ => True

/-- Besides, keys are distinct. -/
def Settled : Json → Prop
  | .number value => Bounded value
  | .object entries => (Entries.keys entries).Nodup
  | _ => True

theorem EverywhereUnder.ofEntries {Holds : Json → Prop} {entries : Entries Json}
    (everywhere : EverywhereUnder Holds entries) : EverywhereUnder Holds (Record.ofEntries entries).entries :=
  everywhereUnder_iff.2 fun entry member =>
    everywhereUnder_iff.1 everywhere entry (Record.mem_of_mem_ofEntries member)

mutual

theorem settled_settle (data : Json) (fits : data.Everywhere Fits) : data.settle.Everywhere Settled := by
  match data with
  | .null => trivial
  | .bool _ => trivial
  | .number _ => exact fits
  | .text _ => trivial
  | .list items => exact ⟨trivial, settled_settleItems items fits.2⟩
  | .object entries => exact ⟨Record.distinct _, (settled_settleEntries entries fits.2).ofEntries⟩

theorem settled_settleItems (items : List Json) (fits : EverywhereIn Fits items) :
    EverywhereIn Settled (settleItems items) := by
  match items with
  | [] => trivial
  | item :: rest => exact ⟨settled_settle item fits.1, settled_settleItems rest fits.2⟩

theorem settled_settleEntries (entries : Entries Json) (fits : EverywhereUnder Fits entries) :
    EverywhereUnder Settled (settleEntries entries) := by
  match entries with
  | [] => trivial
  | (_, value) :: rest => exact ⟨settled_settle value fits.1, settled_settleEntries rest fits.2⟩

end

end Json

namespace Document

/-! ## Nodes of data -/

mutual

/-- Names of fields are distinct, and so are the keys of records in definitions, whose integers have 64 bits. -/
def Node.Settled : Node → Prop
  | .object shape => (Entries.keys shape).Nodup ∧ Node.SettledIn shape
  | .optional inner => inner.Settled
  | .nullable inner => inner.Settled
  | .array element => element.Settled
  | .leaf _ definition => Json.EverywhereUnder Json.Settled definition.entries

def Node.SettledIn : Entries Node → Prop
  | [] => True
  | (_, node) :: rest => node.Settled ∧ Node.SettledIn rest

end

theorem Node.settledIn_iff {nodes : Entries Node} :
    Node.SettledIn nodes ↔ ∀ entry ∈ nodes, entry.2.Settled := by
  induction nodes with
  | nil => simp [Node.SettledIn]
  | cons entry rest ih => simp [Node.SettledIn, ih]

theorem Node.SettledIn.ofEntries {nodes : Entries Node} (settled : Node.SettledIn nodes) :
    Node.SettledIn (Record.ofEntries nodes).entries :=
  Node.settledIn_iff.2 fun entry member => Node.settledIn_iff.1 settled entry (Record.mem_of_mem_ofEntries member)

theorem Kind.settled_around (kind : Kind) {inner : Node} (settled : inner.Settled) : (kind.around inner).Settled := by
  cases kind <;> exact settled

theorem settled_of_definitionOf {data : Json} {definition : Record Json} (fits : data.Everywhere Json.Fits)
    (read : definitionOf data = .ok definition) : Json.EverywhereUnder Json.Settled definition.entries := by
  cases data with
  | object entries =>
    cases read
    exact (Json.settled_settleEntries entries fits.2).ofEntries
  | _ => exact nomatch read

theorem settled_of_leafOfEntries {entries : Entries Json} (fits : Json.EverywhereUnder Json.Fits entries)
    {typeName : Option String} {definition : Option (Record Json)}
    (found : ∀ known ∈ definition, Json.EverywhereUnder Json.Settled known.entries) {node : Node}
    (read : leafOfEntries typeName definition entries = .ok node) : node.Settled := by
  -- The entries may come in any order, so the induction carries what has been found in front.
  induction entries generalizing typeName definition with
  | nil =>
    cases typeName with
    | none => exact nomatch read
    | some typeName =>
      cases read
      cases definition with
      | none => trivial
      | some known => exact found known rfl
  | cons entry rest ih =>
    obtain ⟨key, value⟩ := entry
    rw [leafOfEntries] at read
    split at read
    · split at read
      · exact nomatch read
      · obtain ⟨name, -, more⟩ := bind_eq_ok.1 read
        exact ih fits.2 found more
    · split at read
      · split at read
        · exact nomatch read
        · obtain ⟨known, definitionRead, more⟩ := bind_eq_ok.1 read
          refine ih fits.2 ?_ more
          rintro _ ⟨⟩
          exact settled_of_definitionOf fits.1 definitionRead
      · exact ih fits.2 found read

theorem settled_of_leafOfItems {items : List Json} (fits : Json.EverywhereIn Json.Fits items) {node : Node}
    (read : leafOfItems items = .ok node) : node.Settled := by
  match items with
  | [] => exact nomatch read
  | [typeName] =>
    obtain ⟨name, -, more⟩ := bind_eq_ok.1 read
    cases more
    trivial
  | [typeName, definition] =>
    obtain ⟨name, -, more⟩ := bind_eq_ok.1 read
    obtain ⟨known, definitionRead, more⟩ := bind_eq_ok.1 more
    cases more
    exact settled_of_definitionOf fits.2.1 definitionRead
  -- A third item is refused, but only behind the first two.
  | typeName :: definition :: _ :: _ =>
    obtain ⟨name, -, more⟩ := bind_eq_ok.1 read
    obtain ⟨known, -, more⟩ := bind_eq_ok.1 more
    exact nomatch more

mutual

theorem settled_of_nodeOf (data : Json) (fits : data.Everywhere Json.Fits) {node : Node}
    (read : nodeOf data = .ok node) : node.Settled := by
  match data with
  | .null | .bool _ | .number _ | .text _ => simp [nodeOf] at read
  | .object entries =>
    rw [nodeOf] at read
    obtain ⟨kind, -, more⟩ := bind_eq_ok.1 read
    split at more
    · exact settled_of_objectOfEntries entries fits.2 (by simp) more
    · exact settled_of_leafOfEntries fits.2 (by simp) more
    · exact settled_of_wrapperOfEntries kind entries fits.2 (by simp) more
  | .list [] => rw [nodeOf] at read; exact nomatch read
  | .list (kind :: items) =>
    rw [nodeOf] at read
    obtain ⟨kind, -, more⟩ := bind_eq_ok.1 read
    split at more
    · exact settled_of_objectOfItems items fits.2.2 more
    · exact settled_of_leafOfItems fits.2.2 more
    · exact settled_of_wrapperOfItems kind items fits.2.2 more

theorem settled_of_objectOfItems (items : List Json) (fits : Json.EverywhereIn Json.Fits items) {node : Node}
    (read : objectOfItems items = .ok node) : node.Settled := by
  match items with
  | [] => rw [objectOfItems] at read; exact nomatch read
  | field :: rest =>
    rw [objectOfItems] at read
    obtain ⟨shape, shapeRead, more⟩ := bind_eq_ok.1 read
    split at more
    · cases more
      exact settled_of_shapeOf field fits.1 shapeRead
    · exact nomatch more

theorem settled_of_wrapperOfItems (kind : Kind) (items : List Json) (fits : Json.EverywhereIn Json.Fits items)
    {node : Node} (read : wrapperOfItems kind items = .ok node) : node.Settled := by
  match items with
  | [] => rw [wrapperOfItems] at read; exact nomatch read
  | field :: rest =>
    rw [wrapperOfItems] at read
    obtain ⟨inner, innerRead, more⟩ := bind_eq_ok.1 read
    split at more
    · cases more
      exact kind.settled_around (settled_of_nodeOf field fits.1 innerRead)
    · exact nomatch more

theorem settled_of_objectOfEntries (entries : Entries Json) (fits : Json.EverywhereUnder Json.Fits entries)
    {found : Option (Entries Node)} (known : ∀ shape ∈ found, (Node.object shape).Settled) {node : Node}
    (read : objectOfEntries found entries = .ok node) : node.Settled := by
  -- As for leaves, with the shape that has been found in front.
  match entries with
  | [] =>
    cases found with
    | none => rw [objectOfEntries] at read; exact nomatch read
    | some shape =>
      rw [objectOfEntries] at read
      cases read
      exact known shape rfl
  | (key, value) :: rest =>
    rw [objectOfEntries] at read
    split at read
    · split at read
      · exact nomatch read
      · obtain ⟨shape, shapeRead, more⟩ := bind_eq_ok.1 read
        refine settled_of_objectOfEntries rest fits.2 ?_ more
        rintro _ ⟨⟩
        exact settled_of_shapeOf value fits.1 shapeRead
    · exact settled_of_objectOfEntries rest fits.2 known read

theorem settled_of_wrapperOfEntries (kind : Kind) (entries : Entries Json)
    (fits : Json.EverywhereUnder Json.Fits entries) {found : Option Node} (known : ∀ inner ∈ found, inner.Settled)
    {node : Node} (read : wrapperOfEntries kind found entries = .ok node) : node.Settled := by
  match entries with
  | [] =>
    cases found with
    | none => rw [wrapperOfEntries] at read; exact nomatch read
    | some inner =>
      rw [wrapperOfEntries] at read
      cases read
      exact kind.settled_around (known inner rfl)
  | (key, value) :: rest =>
    rw [wrapperOfEntries] at read
    split at read
    · split at read
      · exact nomatch read
      · obtain ⟨inner, innerRead, more⟩ := bind_eq_ok.1 read
        refine settled_of_wrapperOfEntries kind rest fits.2 ?_ more
        rintro _ ⟨⟩
        exact settled_of_nodeOf value fits.1 innerRead
    · exact settled_of_wrapperOfEntries kind rest fits.2 known read

theorem settled_of_shapeOf (data : Json) (fits : data.Everywhere Json.Fits) {shape : Entries Node}
    (read : shapeOf data = .ok shape) : (Node.object shape).Settled := by
  match data with
  | .null | .bool _ | .number _ | .text _ | .list _ => simp [shapeOf] at read
  | .object entries =>
    rw [shapeOf] at read
    obtain ⟨fields, fieldsRead, more⟩ := bind_eq_ok.1 read
    cases more
    exact ⟨Record.distinct _, (settledIn_of_fieldsOf entries fits.2 fieldsRead).ofEntries⟩

theorem settledIn_of_fieldsOf (entries : Entries Json) (fits : Json.EverywhereUnder Json.Fits entries)
    {fields : Entries Node} (read : fieldsOf entries = .ok fields) : Node.SettledIn fields := by
  match entries with
  | [] =>
    rw [fieldsOf] at read
    cases read
    trivial
  | (name, value) :: rest =>
    rw [fieldsOf] at read
    obtain ⟨node, nodeRead, read⟩ := bind_eq_ok.1 read
    obtain ⟨more, moreRead, read⟩ := bind_eq_ok.1 read
    cases read
    exact ⟨settled_of_nodeOf value fits.1 nodeRead, settledIn_of_fieldsOf rest fits.2 moreRead⟩

end

/-! ## The text of a document -/

/-- What a reader reads meets a condition. -/
def Yields {α : Type} (reader : Reader α) (Meets : α → Prop) : Prop :=
  ∀ {text rest : List Char} {value : α}, reader text = .ok (value, rest) → Meets value

theorem located_eq_ok_iff {α : Type} {path : Path} {result : Except Json.Fault α} {value : α} :
    located path result = .ok value ↔ result = .ok value := by
  cases result <;> simp [located, broken]

theorem refuse_ne_ok {α : Type} {path : Path} {wanted : String} {rest : List Char} {value : α} :
    refuse path wanted rest ≠ .ok value := by
  intro read
  unfold refuse at read
  split at read
  · exact nomatch read
  · exact nomatch read
  · obtain ⟨scalar, -, more⟩ := bind_eq_ok.1 read
    exact nomatch more

theorem fits_of_readScalar {text rest : List Char} {data : Json} (read : readScalar text = .ok (data, rest)) :
    data.Everywhere Json.Fits := by
  unfold readScalar at read
  split at read
  · exact nomatch read
  · obtain ⟨behind, -, same⟩ := bind_eq_ok.1 read
    cases same
    trivial
  · obtain ⟨behind, -, same⟩ := bind_eq_ok.1 read
    cases same
    trivial
  · obtain ⟨behind, -, same⟩ := bind_eq_ok.1 read
    cases same
    trivial
  · obtain ⟨content, -, same⟩ := bind_eq_ok.1 read
    cases same
    trivial
  · split at read
    · obtain ⟨number, numberRead, same⟩ := bind_eq_ok.1 read
      cases same
      exact Json.bounded_of_readNumber numberRead
    · exact nomatch read

section
variable {data : Path → Reader Json}

theorem yields_readElements (fits : ∀ path, Yields (data path) (Json.Everywhere Json.Fits)) (path : Path)
    (length position : Nat) : Yields (readElements data path length position) (Json.EverywhereIn Json.Fits) := by
  intro text rest items read
  -- The induction is on the bound of the reader, of which each element uses up one.
  induction length generalizing position text rest items with
  | zero => exact nomatch read
  | succ length ih =>
    rw [readElements] at read
    obtain ⟨next, -, read⟩ := bind_eq_ok.1 read
    cases next with
    | none =>
      cases read
      trivial
    | some behind =>
      obtain ⟨⟨item, after⟩, itemRead, read⟩ := bind_eq_ok.1 read
      obtain ⟨⟨more, last⟩, moreRead, read⟩ := bind_eq_ok.1 read
      cases read
      exact ⟨fits _ itemRead, ih _ moreRead⟩

theorem yields_readEntries (fits : ∀ path, Yields (data path) (Json.Everywhere Json.Fits)) (path : Path)
    (length : Nat) (first : Bool) : Yields (readEntries data path length first) (Json.EverywhereUnder Json.Fits) := by
  intro text rest entries read
  induction length generalizing first text rest entries with
  | zero => exact nomatch read
  | succ length ih =>
    rw [readEntries] at read
    obtain ⟨next, -, read⟩ := bind_eq_ok.1 read
    cases next with
    | none =>
      cases read
      trivial
    | some next =>
      obtain ⟨behind, -, read⟩ := bind_eq_ok.1 read
      obtain ⟨⟨value, after⟩, valueRead, read⟩ := bind_eq_ok.1 read
      obtain ⟨⟨more, last⟩, moreRead, read⟩ := bind_eq_ok.1 read
      cases read
      exact ⟨fits _ valueRead, ih _ moreRead⟩

theorem yields_readData (length levels : Nat) (path : Path) :
    Yields (readData length levels path) (Json.Everywhere Json.Fits) := by
  intro text rest value read
  induction levels generalizing path text rest value with
  | zero =>
    unfold readData at read
    split at read
    · exact nomatch read
    · exact nomatch read
    · exact fits_of_readScalar (located_eq_ok_iff.1 read)
  | succ levels ih =>
    unfold readData at read
    split at read
    · obtain ⟨⟨items, behind⟩, itemsRead, same⟩ := bind_eq_ok.1 read
      cases same
      exact ⟨trivial, yields_readElements (fun path => ih path) _ _ _ itemsRead⟩
    · obtain ⟨⟨entries, behind⟩, entriesRead, same⟩ := bind_eq_ok.1 read
      cases same
      exact ⟨trivial, yields_readEntries (fun path => ih path) _ _ _ entriesRead⟩
    · exact fits_of_readScalar (located_eq_ok_iff.1 read)

theorem yields_readKind (path : Path) : Yields (readKind path) (Json.Everywhere Json.Fits) := by
  intro text rest value read
  unfold readKind at read
  split at read
  · obtain ⟨⟨name, behind⟩, -, read⟩ := bind_eq_ok.1 read
    dsimp only at read
    split at read
    · cases read
      trivial
    · exact nomatch read
  · exact (refuse_ne_ok read).elim

theorem yields_readNodeEntries (fits : ∀ path, Yields (data path) (Json.Everywhere Json.Fits)) (path : Path)
    (length : Nat) (first found : Bool) :
    Yields (readNodeEntries data path length first found) (Json.EverywhereUnder Json.Fits) := by
  intro text rest entries read
  induction length generalizing first found text rest entries with
  | zero => exact nomatch read
  | succ length ih =>
    rw [readNodeEntries] at read
    obtain ⟨next, -, read⟩ := bind_eq_ok.1 read
    cases next with
    | none =>
      dsimp only at read
      split at read
      · cases read
        trivial
      · exact nomatch read
    | some next =>
      obtain ⟨key, next⟩ := next
      dsimp only at read
      split at read
      · exact nomatch read
      · obtain ⟨behind, -, read⟩ := bind_eq_ok.1 read
        obtain ⟨⟨value, after⟩, valueRead, read⟩ := bind_eq_ok.1 read
        obtain ⟨⟨more, last⟩, moreRead, read⟩ := bind_eq_ok.1 read
        cases read
        refine ⟨?_, ih _ _ moreRead⟩
        -- What stands under the key of the kind has a reader of its own.
        split at valueRead
        · exact yields_readKind _ valueRead
        · exact fits _ valueRead

end

theorem yields_readOuterNode (length levels : Nat) (path : Path) :
    Yields (readOuterNode length levels path) (Json.Everywhere Json.Fits) := by
  intro text rest value read
  unfold readOuterNode at read
  split at read
  · exact nomatch read
  · exact nomatch read
  · rename_i levels _
    obtain ⟨next, -, read⟩ := bind_eq_ok.1 read
    cases next with
    | none => exact nomatch read
    | some behind =>
      obtain ⟨⟨kind, after⟩, kindRead, read⟩ := bind_eq_ok.1 read
      obtain ⟨⟨items, last⟩, itemsRead, read⟩ := bind_eq_ok.1 read
      cases read
      exact ⟨trivial, yields_readKind _ kindRead, yields_readElements (yields_readData length levels) _ _ _ itemsRead⟩
  · rename_i levels _
    obtain ⟨⟨entries, last⟩, entriesRead, read⟩ := bind_eq_ok.1 read
    cases read
    exact ⟨trivial, yields_readNodeEntries (yields_readData length levels) _ _ _ _ entriesRead⟩
  · exact (refuse_ne_ok read).elim

theorem yields_readNodes {data : Path → Reader Json} (fits : ∀ path, Yields (data path) (Json.Everywhere Json.Fits))
    (path : Path) (length : Nat) (first : Bool) : Yields (readNodes data path length first) Node.SettledIn := by
  intro text rest nodes read
  induction length generalizing first text rest nodes with
  | zero => exact nomatch read
  | succ length ih =>
    rw [readNodes] at read
    obtain ⟨next, -, read⟩ := bind_eq_ok.1 read
    cases next with
    | none =>
      cases read
      trivial
    | some next =>
      obtain ⟨behind, -, read⟩ := bind_eq_ok.1 read
      obtain ⟨⟨said, after⟩, saidRead, read⟩ := bind_eq_ok.1 read
      dsimp only at read
      -- The data is read before it is looked at as a node.
      cases made : nodeOf said with
      | error message =>
        rw [made] at read
        exact nomatch read
      | ok node =>
        rw [made] at read
        obtain ⟨⟨more, last⟩, moreRead, read⟩ := bind_eq_ok.1 read
        cases read
        exact ⟨settled_of_nodeOf said (fits _ saidRead) made, ih _ moreRead⟩

theorem yields_readSchemas (length levels : Nat) (path : Path) :
    Yields (readSchemas length levels path) (fun nodes => Node.SettledIn nodes.entries) := by
  intro text rest nodes read
  unfold readSchemas at read
  split at read
  · exact nomatch read
  · obtain ⟨⟨found, last⟩, foundRead, read⟩ := bind_eq_ok.1 read
    cases read
    exact (yields_readNodes (yields_readOuterNode length _) _ _ _ foundRead).ofEntries
  · exact (refuse_ne_ok read).elim

theorem yields_readDraftEntries (length levels budget : Nat) (first : Bool) (header : Option (Option String))
    {nodes : Option (Record Node)} (known : ∀ found ∈ nodes, Node.SettledIn found.entries) :
    Yields (readDraftEntries length levels budget first header nodes)
      (fun draft => Node.SettledIn draft.nodes.entries) := by
  intro text rest draft read
  induction budget generalizing first header nodes text rest draft with
  | zero => exact nomatch read
  | succ budget ih =>
    rw [readDraftEntries] at read
    obtain ⟨next, -, read⟩ := bind_eq_ok.1 read
    cases next with
    | none =>
      cases read
      cases nodes with
      | none => trivial
      | some found => exact known found rfl
    | some next =>
      obtain ⟨key, next⟩ := next
      dsimp only at read
      split at read
      · split at read
        · exact nomatch read
        · obtain ⟨behind, -, read⟩ := bind_eq_ok.1 read
          obtain ⟨⟨headerText, after⟩, -, read⟩ := bind_eq_ok.1 read
          exact ih _ _ known read
      · split at read
        · split at read
          · exact nomatch read
          · obtain ⟨behind, -, read⟩ := bind_eq_ok.1 read
            obtain ⟨⟨schemas, after⟩, schemasRead, read⟩ := bind_eq_ok.1 read
            -- The nodes that are known from here on are those just read.
            refine ih _ _ ?_ read
            rintro _ ⟨⟩
            exact yields_readSchemas _ _ _ schemasRead
        · exact nomatch read

theorem yields_readDraftItems (length levels : Nat) :
    Yields (readDraftItems length levels) (fun draft => Node.SettledIn draft.nodes.entries) := by
  intro text rest draft read
  unfold readDraftItems at read
  obtain ⟨next, -, read⟩ := bind_eq_ok.1 read
  cases next with
  | none =>
    obtain ⟨last, -, read⟩ := bind_eq_ok.1 read
    cases read
    trivial
  | some behind =>
    obtain ⟨⟨header, after⟩, -, read⟩ := bind_eq_ok.1 read
    obtain ⟨next, -, read⟩ := bind_eq_ok.1 read
    cases next with
    | none =>
      obtain ⟨last, -, read⟩ := bind_eq_ok.1 read
      cases read
      trivial
    | some behind =>
      obtain ⟨⟨nodes, after⟩, nodesRead, read⟩ := bind_eq_ok.1 read
      obtain ⟨last, -, read⟩ := bind_eq_ok.1 read
      cases read
      -- Only here are there schemas: a shorter document has none.
      exact yields_readSchemas _ _ _ nodesRead

theorem settled_of_readDraft {source : List Char} {draft : Draft} (read : readDraft source = .ok draft) :
    Node.SettledIn draft.nodes.entries := by
  unfold readDraft at read
  dsimp only at read
  split at read
  · obtain ⟨⟨found, rest⟩, foundRead, same⟩ := bind_eq_ok.1 read
    cases same
    exact yields_readDraftItems _ _ foundRead
  · obtain ⟨⟨found, rest⟩, foundRead, same⟩ := bind_eq_ok.1 read
    cases same
    exact yields_readDraftEntries _ _ _ _ _ (by simp) foundRead
  · obtain ⟨⟨found, rest⟩, foundRead, -⟩ := bind_eq_ok.1 read
    exact (refuse_ne_ok foundRead).elim

end Document
end SchemaExport
