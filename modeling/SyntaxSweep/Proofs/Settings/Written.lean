import SyntaxSweep.Machine.System
import SyntaxSweep.Settings.Discovery
import SyntaxSweep.Proofs.Settings.Values
import SyntaxSweep.Proofs.Text.Utf8
import SyntaxSweep.Proofs.Toml.Lines
import Mathlib.Data.List.Induction
import Mathlib.Data.List.Nodup

namespace SyntaxSweep

open Toml (Spelling Entry IsBareName ReadsAs)

namespace Key

def spelled (s : Spelling) : (key : Key) → key.Content → List Char
  | .ignored, l | .extensions, l | .roots, l | .checkerArgs, l => s.array l
  | .checker, t => s.text t
  | .jobs, n | .timeout, n => Toml.decimal n

def Fits : (key : Key) → key.Content → Prop
  | .ignored, _ | .extensions, _ | .roots, _ | .checkerArgs, _ | .checker, _ => True
  | .jobs, n | .timeout, n => Nat.lt n (Nat.pow 2 63)

def entry (s : Spelling) (key : Key) (v : key.Content) : Entry :=
  ⟨key.name.toList, key.spelled s v, key.value v⟩

end Key

namespace Layer

/-- The keys that the layer speaks of, in the order given, with what it says. -/
def entries (s : Spelling) (order : List Key) (l : Layer) : List Entry :=
  order.filterMap fun key => (l.said? key).map (key.entry s)

def written (s : Spelling) (order : List Key) (l : Layer) : List Char :=
  (l.entries s order).flatMap Entry.line

def document (order : List Key) (l : Layer) : Toml.Document :=
  order.filterMap fun key => (l.said? key).map fun v => (key.name, key.value v)

end Layer

namespace Key

theorem isBareName (key : Key) : IsBareName key.name.toList := by
  cases key <;> exact ⟨by decide, List.all_eq_true.1 rfl⟩

theorem readsAs (s : Spelling) {key : Key} {v : key.Content} (h : key.Fits v) :
    ReadsAs (key.spelled s v) (key.value v) := by
  cases key with
  | ignored | extensions | roots | checkerArgs => exact .array s v
  | checker => exact .text s v
  | jobs | timeout => exact ReadsAs.decimal (n := v) h

theorem entry_readable (s : Spelling) {key : Key} {v : key.Content} (h : key.Fits v) :
    (key.entry s v).Readable :=
  ⟨key.isBareName, readsAs s h⟩

end Key

namespace Layer

theorem ofDocument_concat (d : Toml.Document) (key : Key) (v : Toml.Value) :
    ofDocument (d ++ [(key.name, v)]) = (ofDocument d).bind fun l => l.say key v := by
  rw [ofDocument, List.foldlM_append]
  change (ofDocument d).bind _ = _
  congr
  funext l
  simp only [List.foldlM_cons, List.foldlM_nil, Key.ofName?_name, bind_pure]

theorem ofDocument_document (l : Layer) (order : List Key) :
    ∃ m, ofDocument (l.document order) = .ok m ∧
      ∀ key, m.said? key = if key ∈ order then l.said? key else none := by
  -- From the end, as the last key of a document is the last one to be said.
  induction order using List.reverseRecOn with
  | nil => exact ⟨empty, rfl, said?_empty⟩
  | append_singleton order last ih =>
    obtain ⟨m, hm, hsaid⟩ := ih
    cases hv : l.said? last with
    | none =>
      have hdocument : l.document (order ++ [last]) = l.document order := by
        simp [document, hv]
      refine ⟨m, hdocument ▸ hm, fun key => ?_⟩
      by_cases hkey : key = last
      · subst hkey
        rw [hsaid, hv]
        simp
      · simp [hsaid, hkey]
    | some v =>
      have hdocument : l.document (order ++ [last]) =
          l.document order ++ [(last.name, last.value v)] := by
        simp [document, hv]
      refine ⟨m.saying last (some v), ?_, fun key => ?_⟩
      · rw [hdocument, ofDocument_concat, hm]
        exact m.say_value last v
      · by_cases hkey : key = last
        · subst hkey
          rw [said?_saying, hv, if_pos (List.mem_append_right _ List.mem_cons_self)]
        · rw [said?_saying_of_ne m hkey, hsaid]
          simp [hkey]

variable {s : Spelling} {order : List Key} {l : Layer}

theorem ofDocument_document_all (horder : order.Perm Key.all) (l : Layer) :
    ofDocument (l.document order) = .ok l := by
  obtain ⟨m, hm, hsaid⟩ := l.ofDocument_document order
  have hall : ∀ key, key ∈ order := by
    intro key
    rw [horder.mem_iff]
    cases key <;> decide
  have heq : m = l := eq_of_said fun key => by rw [hsaid, if_pos (hall key)]
  rw [hm, heq]

theorem map_entries (s : Spelling) (order : List Key) (l : Layer) :
    (l.entries s order).map (fun e => (String.ofList e.name, e.value)) = l.document order := by
  rw [entries, document, List.map_filterMap]
  apply List.filterMap_congr
  intro key _
  rw [Option.map_map]
  apply Option.map_congr
  intro v _
  exact congrArg (·, key.value v) String.ofList_toList

theorem nodup_document (horder : order.Nodup) (l : Layer) :
    ((l.document order).map (·.1)).Nodup := by
  rw [document, List.map_filterMap]
  refine List.Nodup.filterMap (fun a b name ha hb => ?_) horder
  obtain ⟨_, hentry, rfl⟩ := Option.map_eq_some_iff.1 ha
  obtain ⟨_, _, rfl⟩ := Option.map_eq_some_iff.1 hentry
  obtain ⟨_, hother, hname⟩ := Option.map_eq_some_iff.1 hb
  obtain ⟨_, _, rfl⟩ := Option.map_eq_some_iff.1 hother
  exact Key.name_inj hname.symm

theorem read?_written (s : Spelling) (horder : order.Nodup)
    (h : ∀ key, ∀ v ∈ l.said? key, key.Fits v) :
    Toml.Document.read? (l.written s order) = some (l.document order) := by
  have hreadable : ∀ e ∈ l.entries s order, e.Readable := by
    intro e he
    obtain ⟨key, _, hkey⟩ := List.mem_filterMap.1 he
    obtain ⟨v, hv, rfl⟩ := Option.map_eq_some_iff.1 hkey
    exact key.entry_readable s (h key v hv)
  have hnodup := nodup_document horder l
  rw [← map_entries s, List.map_map] at hnodup
  rw [written, Toml.read?_lines hreadable hnodup, map_entries]

theorem read_written (s : Spelling) (horder : order.Perm Key.all)
    (h : ∀ key, ∀ v ∈ l.said? key, key.Fits v) : read (l.written s order) = .ok l := by
  have hnodup : order.Nodup := horder.nodup_iff.2 (by decide)
  rw [read, read?_written s hnodup h]
  exact ofDocument_document_all horder l

end Layer

/-- A settings file with a line for each key that the layer speaks of, the keys in any order and the
characters of its texts written as they are or by escapes, is read as just that layer. -/
theorem layer_of_written_file (files : Files) (file : Path) (s : Spelling) (order : List Key)
    (l : Layer) (horder : order.Perm Key.all) (hjobs : ∀ n ∈ l.jobs, n ≤ 2 ^ 63 - 1)
    (htimeout : ∀ n ∈ l.timeout, n ≤ 2 ^ 63 - 1)
    (hfile : files.read file = .ok (Utf8.encode (l.written s order))) :
    files.layerAt file = .ok l := by
  have hfits : ∀ key, ∀ v ∈ l.said? key, key.Fits v := by
    intro key v hv
    cases key with
    | ignored | extensions | roots | checkerArgs | checker => trivial
    | jobs => exact Nat.lt_of_le_pred (by decide) (hjobs v hv)
    | timeout => exact Nat.lt_of_le_pred (by decide) (htimeout v hv)
  rw [Files.layerAt, hfile]
  simp only [Utf8.decode?_eq_some_iff.2 rfl, Layer.read_written s horder hfits]

/-- With empty lists and texts, and with characters that need escapes. -/
def awkwardLayer : Layer where
  ignored := some []
  extensions := some ["", "\"php\"", "a\\b"]
  checker := some "php\n\t\x01\x7f é 𝄞"
  jobs := some 0
  timeout := some (2 ^ 63 - 1)

example : awkwardLayer.written .needed [.jobs, .checker, .roots, .extensions, .ignored] =
    "jobs = 0\nchecker = \"php\\n\\t\\u0001\\u007f é 𝄞\"\n".toList ++
      "extensions = [\"\", \"\\\"php\\\"\", \"a\\\\b\"]\nignore_patterns = []\n".toList := by
  decide +kernel

/-- A disk with a settings file at its top, and nothing else. -/
def settingsDisk (data : Bytes) : Disk :=
  ⟨.directory true [(bytesOf "check-syntax.toml", .file data false)], []⟩

theorem read_settingsDisk (data : Bytes) :
    (settingsDisk data).files.read (.ofText "check-syntax.toml") = .ok data := by
  have hsegments : (Path.ofText "check-syntax.toml").segments = [bytesOf "check-syntax.toml"] := by
    decide
  have hplace : (settingsDisk data).place? true (.ofText "check-syntax.toml") =
      .ok [bytesOf "check-syntax.toml"] := by
    rw [Disk.place?, if_neg (by decide), if_neg (by decide), if_neg (by decide), hsegments,
      if_neg (by decide), settingsDisk, Disk.walk]
    simp only [Node.at?]
    rw [if_neg (by decide), if_neg (by decide), if_neg (by decide), Node.named?, if_pos rfl,
      Disk.walk]
    rfl
  change (settingsDisk data).read _ = _
  rw [Disk.read, Disk.node?, hplace]
  rfl

theorem awkward_layer_read :
    Key.all.reverse.Perm Key.all ∧
      (settingsDisk (Utf8.encode (awkwardLayer.written .needed Key.all.reverse))).files.layerAt
        (.ofText "check-syntax.toml") = .ok awkwardLayer := by
  refine ⟨List.reverse_perm _, layer_of_written_file _ _ .needed Key.all.reverse awkwardLayer
    (List.reverse_perm _) ?_ ?_ (read_settingsDisk _)⟩
  · rintro n ⟨⟩
    decide
  · rintro n ⟨⟩
    decide

end SyntaxSweep
