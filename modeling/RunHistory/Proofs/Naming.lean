import RunHistory.Proofs.Relations

/-!
# The names of vertices

A vertex has the name that its records give it, even an empty one.  Without that it takes the first
name under which its run has the vertex's id, in the order in which the run's records give the
names, and it stays without a name if there is none.  All of this is about what the records of the
vertex and those of the run say, and not about where they stand in the file.

Names from the run are told apart: each of them belongs to one id.  Names from records are not, so
that a look-up by name finds the first vertex of that name.

## Main definitions

* `Chunks.lastValue?`: the last value of a field in the records of an entity in a file.
* `Dag.givenNames`: the names that a run gives, with the values that stand under them.
* `Vertex.Named`: the name that a vertex has.

## Main results

* `Facts.field_infoOf_foldl_absorb`: a field of the information of several records.
* `Vertex.named_or_firstName?`: a name from the records, or from the run.
* `Dag.vertexNamed?_eq_some_iff`: what a look-up by name finds.
* `parse_named`: **the names of the vertices in the tree of a history.**
-/

namespace RunHistory

/-! ### The records of an entity -/

/-- The last value of a field in the records of an entity in a file. -/
def Chunks.lastValue? (chunks : Chunks) (kind : Kind) (id name : String) : Option Value :=
  Table.lastValue? name
    ((Record.ofEntity kind id (chunks.records.filterMap recordOf?)).filterMap Record.info)

/-- A field of the information of several records has its last value. -/
theorem Facts.field_infoOf_foldl_absorb (first : Record) (later : List Record) (name : String) :
    field (infoOf (later.foldl Record.absorb first)) name =
      (Table.lastValue? name ((first :: later).filterMap Record.info)).getD .null := by
  rw [Record.foldl_absorb_eq]
  generalize (first :: later).filterMap Record.info = infos
  show field ((Record.overlaid infos).getD .empty) name = _
  cases h : Record.overlaid infos with
  | none =>
    rw [Record.overlaid_eq_none_iff.1 h]
    rfl
  | some info => rw [Option.getD_some, field, (Record.overlaid_eq_some h).2]

/-- So it is with every record that is held of a run. -/
theorem field_infoOf_held {run : String} {texts : List (List Char)} {verdicts : List Verdict}
    (hverdicts : texts.mapM (judgeText run) = .ok verdicts) {kind : Kind} {key : String}
    {r : Record} (hr : (State.ofVerdicts run verdicts).held? kind key = some r)
    (ending : Option Chunks.Ending) (name : String) : field (Facts.infoOf r) name =
      ((Chunks.mk texts ending).lastValue? kind key name).getD .null := by
  obtain ⟨first, later, hrecords, rfl⟩ := State.held?_ofVerdicts_eq_some_iff.1 hr
  rw [Facts.field_infoOf_foldl_absorb, Chunks.lastValue?, ofEntity_of_accepted hverdicts hrecords]

/-! ### Names from records and from the run -/

theorem Vertex.name_of_ofRecord {r : Record} {v : Vertex} (h : Vertex.ofRecord r = .ok v) :
    v.name = (field (Facts.infoOf r) "vertexName").text? := by
  obtain ⟨facts, hfacts, h⟩ := bind_eq_ok_iff.1 h
  obtain ⟨taskCount, -, h⟩ := bind_eq_ok_iff.1 h
  obtain ⟨initTime, -, h⟩ := bind_eq_ok_iff.1 h
  cases h
  rw [(Facts.of_ofRecord hfacts).2]

theorem Dag.vertexIds_of_ofRecord {r : Record} {d : Dag} (h : Dag.ofRecord r = .ok d) :
    d.vertexIds = vertexIdsOf (Facts.infoOf r) := by
  obtain ⟨facts, hfacts, h⟩ := bind_eq_ok_iff.1 h
  cases h
  rw [(Facts.of_ofRecord hfacts).2]

/-- The names that a run gives, in order, each with the value that stands under it; a run gives none
unless by an object. -/
def Dag.givenNames : Value → List (String × Value)
  | .object fields => (Table.ofList fields).entries
  | _ => []

theorem Dag.nodup_givenNames (mapping : Value) : ((givenNames mapping).map Prod.fst).Nodup := by
  cases mapping with
  | object fields => exact (Table.ofList fields).nodup
  | _ => exact List.nodup_nil

/-- The first name under which a run has an id. -/
def Dag.firstName? (given : List (String × Value)) (id : String) : Option String :=
  (given.find? fun e => e.2.text = id).map Prod.fst

theorem Dag.nameOf?_eq_firstName? {d : Dag} {info : Table Value}
    (h : d.vertexIds = vertexIdsOf info) (id : String) :
    d.nameOf? id = firstName? (givenNames (field info "vertexNameIdMapping")) id := by
  have hentries : d.vertexIds.entries = (givenNames (field info "vertexNameIdMapping")).map
      fun e => (e.1, e.2.text) := by
    rw [h, vertexIdsOf]
    cases field info "vertexNameIdMapping" <;> rfl
  rw [nameOf?, firstName?, hentries, List.find?_map, Option.map_map]
  rfl

/-- The name of a vertex with an id, going by what its records log as its name and by the names that
its run gives. -/
inductive Vertex.Named (logged : Value) (given : List (String × Value)) (id : String) :
    Option String → Prop where
  /-- The records log a name. -/
  | logged (h : logged ≠ .null) : Named logged given id (some logged.text)
  /-- They log none, and this is the first name under which the run has the id. -/
  | given {name : String} {v : Value} {before after : List (String × Value)} (h : logged = .null)
    (names : given = before ++ (name, v) :: after) (own : v.text = id)
    (first : ∀ e ∈ before, e.2.text ≠ id) : Named logged given id (some name)
  /-- They log none, and the run does not have the id under any name. -/
  | nameless (h : logged = .null) (none_own : ∀ e ∈ given, e.2.text ≠ id) :
    Named logged given id none

/-- **A name from the records, or from the run.** -/
theorem Vertex.named_or_firstName? (logged : Value) (given : List (String × Value)) (id : String) :
    Vertex.Named logged given id (logged.text?.or (Dag.firstName? given id)) := by
  by_cases hlogged : logged = .null
  · subst hlogged
    show Vertex.Named _ _ _ (Dag.firstName? given id)
    rw [Dag.firstName?]
    cases hfind : given.find? fun e => e.2.text = id with
    | none => exact .nameless rfl (by simpa using hfind)
    | some e =>
      obtain ⟨hown, before, after, hnames, hfirst⟩ := List.find?_eq_some_iff_append.1 hfind
      exact .given rfl hnames (by simpa using hown) (by simpa using hfirst)
  · have htext : logged.text? = some logged.text := by
      cases logged <;> first | rfl | exact absurd rfl hlogged
    rw [htext, Option.some_or]
    exact .logged hlogged

/-- A name that comes from the run belongs to one id only. -/
theorem Vertex.Named.id_eq {given : List (String × Value)} (hnodup : (given.map Prod.fst).Nodup)
    {id id' name : String} (h : Vertex.Named .null given id (some name))
    (h' : Vertex.Named .null given id' (some name)) : id = id' := by
  have hmem : ∀ {id}, Vertex.Named .null given id (some name) → ∃ v, (name, v) ∈ given ∧
      v.text = id := by
    intro id h
    cases h with
    | logged hne => exact absurd rfl hne
    | given _ names own => exact ⟨_, by rw [names]; simp, own⟩
  obtain ⟨v, hv, rfl⟩ := hmem h
  obtain ⟨v', hv', rfl⟩ := hmem h'
  have hlookup := (Table.lookupEntry_eq_some_iff hnodup).2 hv
  rw [(Table.lookupEntry_eq_some_iff hnodup).2 hv'] at hlookup
  rw [Option.some.inj hlookup]

/-! ### Looking up a name -/

theorem Dag.vertexNamed?_str (d : Dag) (name : String) :
    d.vertexNamed? (.str name) = d.vertices.values.find? fun v => v.name = some name := by
  rw [vertexNamed?]
  congr 1
  funext v
  rw [isName]
  exact beq_eq_decide _ _

/-- **A look-up by name finds the first vertex of that name.** -/
theorem Dag.vertexNamed?_eq_some_iff {d : Dag} {name : String} {v : Vertex} :
    d.vertexNamed? (.str name) = some v ↔ ∃ before after,
      d.vertices.values = before ++ v :: after ∧ v.name = some name ∧
        ∀ w ∈ before, w.name ≠ some name := by
  rw [vertexNamed?_str, List.find?_eq_some_iff_append]
  simp only [decide_eq_true_eq, Bool.not_eq_true', decide_eq_false_iff_not]
  constructor
  · rintro ⟨hname, before, after, hvalues, hbefore⟩
    exact ⟨before, after, hvalues, hname, hbefore⟩
  · rintro ⟨before, after, hvalues, hname, hbefore⟩
    exact ⟨hname, before, after, hvalues, hbefore⟩

theorem Dag.vertexNamed?_eq_none_iff {d : Dag} {name : String} :
    d.vertexNamed? (.str name) = none ↔ ∀ v ∈ d.vertices.values, v.name ≠ some name := by
  rw [vertexNamed?_str, List.find?_eq_none]
  simp only [decide_eq_true_eq]

/-! ### The tree of a history -/

/-- A vertex of a tree has a name from its record or from that of the run. -/
theorem Dag.TreeOf.named {s : State} {d : Dag} (hd : d.TreeOf s) {v : Vertex}
    (h : v ∈ d.vertices.values) : ∃ r r', s.held? .vertex v.id = some r ∧
      s.held? .dag d.id = some r' ∧ Vertex.Named (field (Facts.infoOf r) "vertexName")
        (givenNames (field (Facts.infoOf r') "vertexNameIdMapping")) v.id v.name := by
  obtain ⟨key, hkey⟩ := Table.mem_values_iff.1 h
  obtain ⟨r', d₀, hr', hd₀, hrun⟩ := hd.record
  have hplaced := hd.vertices key v hkey
  obtain ⟨r, v₀, hr, hv₀, hv⟩ := hplaced.record
  have hvertexIds : d.vertexIds = vertexIdsOf (Facts.infoOf r') := by
    rw [hrun]
    show d₀.vertexIds = _
    exact vertexIds_of_ofRecord hd₀
  refine ⟨r, r', hplaced.id_eq ▸ hr, hd.id_eq ▸ hr', ?_⟩
  have hname : v.name = v₀.name.or (d.nameOf? v₀.id) := by
    rw [hv]
    rfl
  have hid : v₀.id = v.id := by
    rw [hv]
    rfl
  rw [hname, hid, Vertex.name_of_ofRecord hv₀, nameOf?_eq_firstName? hvertexIds]
  exact Vertex.named_or_firstName? _ _ _

/-- **The names of the vertices in the tree of a history.**  Each vertex has the name that its
records in the file log last, and else the first one under which the records of the run have its id.
Two vertices that have their names from the run have different names.  A look-up by name finds the
first vertex that has the name, if there is one. -/
theorem parse_named {cfg : Configuration} {source : Source} {wanted : Value} {d : Dag}
    (h : (parse cfg source wanted).result = .ok d) : ∃ bytes chunks,
      source.content = .file bytes ∧ cfg.chunks bytes = .ok chunks ∧
      (∀ v ∈ d.vertices.values, Vertex.Named
        ((chunks.lastValue? .vertex v.id "vertexName").getD .null)
        (Dag.givenNames ((chunks.lastValue? .dag d.id "vertexNameIdMapping").getD .null))
        v.id v.name) ∧
      (∀ v ∈ d.vertices.values, ∀ w ∈ d.vertices.values, v ≠ w →
        (chunks.lastValue? .vertex v.id "vertexName").getD .null = .null →
        (chunks.lastValue? .vertex w.id "vertexName").getD .null = .null →
          v.name = w.name → v.name = none) ∧
      ∀ name,
        (∀ v, d.vertexNamed? (.str name) = some v ↔ ∃ before after,
          d.vertices.values = before ++ v :: after ∧ v.name = some name ∧
            ∀ w ∈ before, w.name ≠ some name) ∧
        (d.vertexNamed? (.str name) = none ↔ ∀ v ∈ d.vertices.values, v.name ≠ some name) := by
  obtain ⟨s, ⟨run, bytes, chunks, hrun, hcontent, hchunks, hingest⟩, hlink⟩ := exists_of_parse h
  obtain ⟨hs, -⟩ := sound_ingest hingest
  have hd := hs.treeOf hlink
  obtain ⟨-, verdicts, hverdicts, rfl⟩ := ingest_eq_ok_iff.1 hingest
  have hnamed : ∀ v ∈ d.vertices.values, Vertex.Named
      ((chunks.lastValue? .vertex v.id "vertexName").getD .null)
      (Dag.givenNames ((chunks.lastValue? .dag d.id "vertexNameIdMapping").getD .null))
      v.id v.name := by
    intro v hv
    obtain ⟨r, r', hr, hr', hname⟩ := hd.named hv
    rwa [field_infoOf_held hverdicts hr chunks.ending, field_infoOf_held hverdicts hr' chunks.ending]
      at hname
  refine ⟨bytes, chunks, hcontent, hchunks, hnamed, ?_, ?_⟩
  · intro v hv w hw hne hunlogged hunlogged' hsame
    cases hname : v.name with
    | none => rfl
    | some name =>
      have hvnamed := hnamed v hv
      have hwnamed := hnamed w hw
      rw [hunlogged, hname] at hvnamed
      rw [hunlogged', ← hsame, hname] at hwnamed
      have hid := hvnamed.id_eq (Dag.nodup_givenNames _) hwnamed
      -- the vertex with an id is one
      have hget := hd.get?_vertex_iff.2 ⟨hv, hid⟩
      rw [hd.get?_vertex_iff.2 ⟨hw, rfl⟩] at hget
      exact absurd (Option.some.inj hget).symm hne
  · exact fun name => ⟨fun v => Dag.vertexNamed?_eq_some_iff, Dag.vertexNamed?_eq_none_iff⟩

/-- A history of three vertices, and behind them the run with names for two of them. -/
def namedVertices : Source where
  asked := some "history"
  shown := "history"
  content := .file ((['\n'].intercalate [bareText "dag_1_vertex_2" "VERTEX",
    "\x7b\"entity\":\"dag_1_vertex_1\",\"entitytype\":\"VERTEX\",".toList ++
      "\"otherInfo\":\x7b\"vertexName\":\"\"\x7d\x7d".toList,
    bareText "dag_1_vertex_3" "VERTEX",
    "\x7b\"entity\":\"dag_1\",\"entitytype\":\"DAG\",\"otherInfo\":\x7b".toList ++
      "\"vertexNameIdMapping\":\x7b\"b\":\"dag_1_vertex_1\",\"c\":7,".toList ++
      "\"a\":\"dag_1_vertex_2\",\"d\":\"dag_1_vertex_2\"\x7d\x7d\x7d".toList]).flatMap
        String.utf8EncodeChar)

/-- The first of two names that the run gives counts, and none of them counts against an empty name
that is logged. -/
theorem parse_named_by_run : ∃ d, (parse .standard namedVertices (.str "dag_1")).result = .ok d ∧
    d.vertices.values.map (fun v => v.name) = [some "a", some "", none] ∧
    d.vertexNamed? (.str "d") = none ∧
    ∃ chunks : Chunks, ∀ v ∈ d.vertices.values, Vertex.Named
      ((chunks.lastValue? .vertex v.id "vertexName").getD .null)
      (Dag.givenNames ((chunks.lastValue? .dag d.id "vertexNameIdMapping").getD .null))
      v.id v.name := by
  have hnames : (parse .standard namedVertices (.str "dag_1")).result.toOption.map
      (fun d => d.vertices.values.map fun v => v.name) = some [some "a", some "", none] := by
    decide +kernel
  obtain ⟨d, hresult, hnames⟩ := exists_of_toOption_map hnames
  obtain ⟨bytes, chunks, -, -, hnamed, -, hlookup⟩ := parse_named hresult
  refine ⟨d, hresult, hnames, (hlookup "d").2.2 ?_, chunks, hnamed⟩
  intro v hv
  have hmem := List.mem_map_of_mem (f := fun v : Vertex => v.name) hv
  rw [hnames] at hmem
  intro hname
  rw [hname] at hmem
  revert hmem
  decide

end RunHistory
