import RouteWeaver.Proofs.Indentation
import RouteWeaver.Proofs.ServiceHolders

namespace RouteWeaver

namespace Text

/-- Lines at a depth. A line that holds line feeds is several. -/
def linesAt (depth : Nat) (lines : List String) : String :=
  String.join (lines.map fun line => deepened depth (line ++ "\n"))

theorem flatMap_pieces_feed (c : Char) (text : List Char) :
    (pieces c text).flatMap (· ++ [c]) = text ++ [c] := by
  induction text with
  | nil => rfl
  | cons d ds ih =>
    obtain ⟨first, rest, cut⟩ := exists_pieces_eq_cons c ds
    rw [cut, List.flatMap_cons] at ih
    rw [pieces]
    split
    · rename_i same
      rw [List.flatMap_cons, cut, List.flatMap_cons, ih, same]
      rfl
    · rw [cut, List.flatMap_cons, List.cons_append, List.cons_append, ih, List.cons_append]

end Text

namespace Writer

open Text

theorem text_line (w : Writer) (text : String) :
    (w.line text).text = w.text ++ deepened w.depth.toNat (text ++ "\n") := by
  have outermost : String.ofList ((pieces '\n' text.toList).flatMap (physicalLine 0)) =
      text ++ "\n" := by
    have feed (line : List Char) : physicalLine 0 line = line ++ ['\n'] := by
      cases line <;> rfl
    rw [← String.toList_inj, String.toList_ofList, funext feed, flatMap_pieces_feed,
      String.toList_append]
    rfl
  have inside : deepened w.depth.toNat
      (String.ofList ((pieces '\n' text.toList).flatMap (physicalLine 0))) =
      String.ofList ((pieces '\n' text.toList).flatMap (physicalLine w.depth)) :=
    deepened_lines (by simp) text.toList
  rw [line, ← inside, outermost]

/-- The lines of a holder: those before its function, the body of the function and the end. -/
theorem line_holder {w : Writer} (inRange : w.depth.toNat + 1 < 2 ^ 64)
    (doc static opening body closing : String) :
    ((((w.line doc).line static).blank.line opening).indent.line body).dedent.line closing =
      ⟨w.text ++ (linesAt w.depth.toNat [doc, static, "", opening] ++
        linesAt (w.depth.toNat + 1) [body] ++ linesAt w.depth.toNat [closing]), w.depth⟩ := by
  have empty : deepened w.depth.toNat ("" ++ "\n") = "\n" := rfl
  have inside : (w.depth + 1).toNat = w.depth.toNat + 1 := toNat_indent inRange
  have back : w.indent.dedent.depth = w.depth := depth_dedent_indent inRange
  let opened := ((w.line doc).line static).blank.line opening
  have outer : opened.text = w.text ++ linesAt w.depth.toNat [doc, static, "", opening] := by
    simp only [opened, linesAt, text_line, blank, List.map_cons, List.map_nil, String.join_cons,
      String.join_nil, String.append_empty, String.append_assoc, empty]
    rfl
  have inner : (opened.indent.line body).text =
      opened.text ++ linesAt (w.depth.toNat + 1) [body] := by
    simp only [linesAt, text_line, List.map_cons, List.map_nil, String.join_cons, String.join_nil,
      String.append_empty, ← inside]
    rfl
  have ends : ((opened.indent.line body).dedent.line closing).text =
      (opened.indent.line body).text ++ linesAt w.depth.toNat [closing] := by
    have level : (opened.indent.line body).dedent.depth = w.depth := back
    rw [text_line, level, linesAt, List.map_singleton, String.join_cons, String.join_nil,
      String.append_empty]
    rfl
  have text : ((opened.indent.line body).dedent.line closing).text =
      w.text ++ (linesAt w.depth.toNat [doc, static, "", opening] ++
        linesAt (w.depth.toNat + 1) [body] ++ linesAt w.depth.toNat [closing]) := by
    rw [ends, inner, outer]
    simp only [String.append_assoc]
  exact congrArg₂ Writer.mk text back

end Writer

namespace Service

open Text

/-- The text of a holder at a depth, with the types of its services. -/
def declaration (depth : Nat) (types : List String) (name type : String) : String :=
  let static := String.ofList (name.toList.map Char.toUpper)
  linesAt depth [
    "/// Storage for " ++ ", ".intercalate (types.map fun t => "`" ++ t ++ "`") ++ ".",
    "static " ++ static ++ ": ::std::sync::OnceLock<" ++ type ++
      "> = ::std::sync::OnceLock::new();",
    "",
    "pub(crate) fn " ++ name ++ "() -> &'static " ++ type ++ " \x7b"] ++
  linesAt (depth + 1) [
    static ++ ".get_or_init(<" ++ type ++ " as ::core::default::Default>::default)"] ++
  linesAt depth ["\x7d"]

def sharing (services : List Service) (name : String) : List Service :=
  services.filter (·.storage = name)

/-- The text is the holder of a storage name. It stores the implementation of the first service of
that name and lists the types of all. -/
def Declared (services : List Service) (depth : Nat) (name text : String) : Prop :=
  ∃ first others, sharing services name = first :: others ∧
    text = declaration depth ((first :: others).map fun s => trimmed s.type) name
      (trimmed first.implementation)

namespace Shared

def declared (depth : Nat) (g : Shared) : String :=
  declaration depth g.types g.storage (trimmed g.first.implementation)

theorem writeAll_holder (g : Shared) {w : Writer} (inRange : w.depth.toNat + 1 < 2 ^ 64) :
    Layout.writeAll w g.holder.layout = ⟨w.text ++ g.declared w.depth.toNat, w.depth⟩ := by
  have doc : "/// " ++ g.holder.doc = "/// Storage for " ++
      ", ".intercalate (g.types.map fun t => "`" ++ t ++ "`") ++ "." := by
    rw [holder, ← String.append_assoc, ← String.append_assoc]
    rfl
  rw [declared, declaration, ← doc]
  exact Writer.line_holder inRange _ _ _ _ _

/-- Holders are written one after the other, with one blank line between two of them. -/
theorem writeAll_holders (groups : List Shared) {w : Writer}
    (inRange : w.depth.toNat + 1 < 2 ^ 64) :
    Layout.writeAll w (Holder.layoutAll (groups.map holder)) =
      ⟨w.text ++ "\n".intercalate (groups.map (declared w.depth.toNat)), w.depth⟩ := by
  induction groups generalizing w with
  | nil =>
    rw [List.map_nil, List.map_nil, String.intercalate_nil, String.append_empty]
    rfl
  | cons g groups ih =>
    have first := writeAll_holder g inRange
    cases groups with
    | nil => exact first
    | cons g' groups =>
      have later := ih (w := ⟨w.text ++ g.declared w.depth.toNat ++ "\n", w.depth⟩) inRange
      have shape : Holder.layoutAll ((g :: g' :: groups).map holder) = g.holder.layout ++
        .blank :: Holder.layoutAll ((g' :: groups).map holder) := rfl
      have several : (g' :: groups).map (declared w.depth.toNat) ≠ [] := List.cons_ne_nil _ _
      have texts : "\n".intercalate ((g :: g' :: groups).map (declared w.depth.toNat)) =
          g.declared w.depth.toNat ++ "\n" ++
            "\n".intercalate ((g' :: groups).map (declared w.depth.toNat)) := by
        rw [List.map_cons, String.intercalate_cons_of_ne_nil several]
      rw [shape, Layout.writeAll_append, Layout.writeAll, Layout.write, first, Writer.blank, later,
        texts]
      simp only [String.append_assoc]

end Shared

variable {services : List Service}

theorem sharing_storage {g : Shared} (member : g ∈ shared services) :
    sharing services g.storage = g.members :=
  ((grouped_shared services).members g member).symm

theorem declared_shared {g : Shared} (member : g ∈ shared services) (depth : Nat) :
    Declared services depth g.storage (g.declared depth) :=
  ⟨g.first, g.others, sharing_storage member, rfl⟩

theorem perm_flatMap_sharing (services : List Service) :
    ((services.map (·.storage)).eraseDups.flatMap (sharing services)).Perm services := by
  have each : (shared services).flatMap (fun g => sharing services g.storage) =
      (shared services).flatMap Shared.members :=
    List.flatMap_congr fun g member => sharing_storage member
  rw [← (grouped_shared services).names, List.flatMap_map]
  exact (List.Perm.of_eq each).trans (Shared.perm_flatMap_members_insertAll services [])

end Service

open Service in
/-- There is one holder a storage name, in order of first occurrence, and each service is one of
those that one holder lists. The holders are written with one blank line between two of them;
without services, nothing is. -/
theorem service_holders_written (services : List Service) :
    let names := (services.map (·.storage)).eraseDups
    (∀ w : Writer, w.depth.toNat + 1 < 2 ^ 64 → ∃ texts,
      List.Forall₂ (Declared services w.depth.toNat) names texts ∧
      Layout.writeAll w (Holder.layoutAll (holders services)) =
        ⟨w.text ++ "\n".intercalate texts, w.depth⟩) ∧
    (names.flatMap (sharing services)).Perm services ∧
    ∀ w, Layout.writeAll w (Holder.layoutAll (holders [])) = w := by
  refine ⟨fun w inRange => ⟨_, ?_, Shared.writeAll_holders (shared services) inRange⟩,
    perm_flatMap_sharing services, fun w => rfl⟩
  rw [← (grouped_shared services).names, List.forall₂_map_left_iff, List.forall₂_map_right_iff,
    List.forall₂_same]
  exact fun g member => declared_shared member w.depth.toNat

namespace Clocks

def services : List Service := [
  ⟨"dyn app::Clock", "app::SystemClock", "system_clock"⟩,
  ⟨"dyn app::Log", "app::FileLog", "file_log"⟩,
  ⟨" dyn app::TimeSource", "app::SystemClock", "system_clock"⟩]

end Clocks

open Clocks Service in
theorem clock_holders_written :
    (Writer.atDepth 1).depth.toNat + 1 < 2 ^ 64 ∧
    ∃ clock log, Declared services 1 "system_clock" clock ∧ Declared services 1 "file_log" log ∧
      Layout.writeAll (.atDepth 1) (Holder.layoutAll (holders services)) =
        ⟨clock ++ "\n" ++ log, 1⟩ := by
  have inRange : (Writer.atDepth 1).depth.toNat + 1 < 2 ^ 64 := by decide
  have names : (services.map (·.storage)).eraseDups = ["system_clock", "file_log"] := by decide
  obtain ⟨written, -, -⟩ := service_holders_written services
  obtain ⟨texts, declared, whole⟩ := written (.atDepth 1) inRange
  rw [names] at declared
  obtain ⟨clock, logs, first, others, rfl⟩ := List.forall₂_cons_left_iff.mp declared
  obtain ⟨log, none, second, nothing, rfl⟩ := List.forall₂_cons_left_iff.mp others
  obtain rfl := List.forall₂_nil_left_iff.mp nothing
  refine ⟨inRange, clock, log, first, second, whole.trans ?_⟩
  rw [String.intercalate_cons_of_ne_nil (List.cons_ne_nil log []), String.intercalate_singleton]
  simp [Writer.atDepth]

end RouteWeaver
