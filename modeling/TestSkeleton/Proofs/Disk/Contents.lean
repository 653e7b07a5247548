import TestSkeleton.Proofs.Disk.Rewritten
import TestSkeleton.Proofs.Java.Layout
import TestSkeleton.Proofs.Write.LastBody

/-!
# The content of a file

What a body becomes when it is written record by record. The last line of a test class is a brace
with a line end, so where that line end is a line feed, and records end in one too, the file holds
the text as it was put together.

Specification: `SPEC_FULL.md:54`.
-/

namespace TestSkeleton

open Java

/-- A test class ends in a brace and a line end. -/
theorem Java.Outline.exists_text_eq_push (o : Outline) (c : ClassInfo) (field : Name) (k : Nat) :
    ∃ front : String, (o.bodyWith c field k).text = front.push '\x7d' ++ o.lineEnd := by
  have hbrace (front : String) : front ++ (closeBrace ++ o.lineEnd) =
      front.push '\x7d' ++ o.lineEnd := by
    apply String.toList_inj.mp
    simp [closeBrace]
  exact ⟨_, (o.text_eq c field k).trans (hbrace _)⟩

/-- What is written for a text: the text with a terminator if it has no line feed, nothing if it has
nothing else, and otherwise, without the line feeds at its end, a terminator for each line feed and
one more. That is what a ledger holds and what is read on a disk. Where line feeds end both lines
and records, the text of every test class is written as it is. -/
theorem Batch.content_of_text :
    (∀ terminator text, Records.join terminator (Records.split text) =
      if '\n' ∉ text.toList then text ++ terminator
      else if text.toList.all (· = '\n') then ""
      else Text.replaceChar '\n' terminator (Records.withoutFeeds text) ++ terminator) ∧
    (∀ terminator text target,
      (∀ l : Ledger, (l.recordAll (callsFor terminator text target)).text? target =
        some (Records.join terminator (Records.split text))) ∧
      ∀ d d' : Disk, Disk.adapter.Succeeds d (callsFor terminator text target) d' →
        d'.read target = .ok (Records.join terminator (Records.split text)).toUTF8) ∧
    ∀ (f : Framework) (c : ClassInfo) (k : Nat) (name : Name),
      Name.ofValue c.simpleName = .ok name →
      ∃ body, (Outline.ofFramework f "\n").body c k = .ok body ∧ ∀ target,
        (∀ l : Ledger, (l.recordAll (callsFor "\n" body.text target)).text? target =
          some body.text) ∧
        ∀ d d' : Disk, Disk.adapter.Succeeds d (callsFor "\n" body.text target) d' →
          d'.read target = .ok body.text.toUTF8 := by
  have hwritten (terminator text : String) (target : Path) :
      (∀ l : Ledger, (l.recordAll (callsFor terminator text target)).text? target =
        some (Records.join terminator (Records.split text))) ∧
      ∀ d d' : Disk, Disk.adapter.Succeeds d (callsFor terminator text target) d' →
        d'.read target = .ok (Records.join terminator (Records.split text)).toUTF8 :=
    ⟨fun l => l.text?_callsFor_self terminator text target, fun _ _ h => Disk.read_callsFor h⟩
  refine ⟨Records.join_split, hwritten, fun f c k name hname => ?_⟩
  let o := Outline.ofFramework f "\n"
  have hkept : Records.join "\n" (Records.split (o.bodyWith c name.decapitalize k).text) =
      (o.bodyWith c name.decapitalize k).text := by
    obtain ⟨front, hfront⟩ := o.exists_text_eq_push c name.decapitalize k
    rw [hfront]
    exact Records.join_split_push front (by decide)
  refine ⟨_, Outline.body_of_name hname, fun target => ?_⟩
  have hbody := hwritten "\n" (o.bodyWith c name.decapitalize k).text target
  rwa [hkept] at hbody

/-- Line feeds in the name of a method do not change what is read: the text that is put together
comes in the place of an old one. -/
theorem Batch.content_of_text_with_feeds :
    let c : ClassInfo := { canonicalName := "a.Widget", methods := [{ name := "run\n\nstop\n" }] }
    let target : Path := .ofString "/p/WidgetTest.java"
    Name.ofValue c.simpleName = .ok (.text "Widget") ∧
      ∃ body d d', (Outline.ofFramework .junit5 "\n").body c 2 = .ok body ∧
        d.read target = .ok "old\n".toUTF8 ∧
        Disk.adapter.Succeeds d (callsFor "\n" body.text target) d' ∧
        d'.read target = .ok body.text.toUTF8 ∧
        Records.join "\r\n" (Records.split "a\nb\n\n") = "a\r\nb\r\n" := by
  intro c target
  have hname : Name.ofValue c.simpleName = .ok (.text "Widget") := by decide
  let old : Batch := ⟨["old"], [target]⟩
  have hresult : ((old.write Disk.perform "\n").run Disk.empty).1 = .ok [target] := by decide +kernel
  obtain ⟨-, hold, -⟩ := Batch.write_eq_ok.mp
    (Prod.ext hresult rfl : (old.write Disk.adapter.perform "\n").run Disk.empty = (_, _))
  obtain ⟨hrecords, hcontent, hclasses⟩ := content_of_text
  obtain ⟨body, hbody, hwritten⟩ := hclasses .junit5 c 2 (.text "Widget") hname
  have hreplaceable := Disk.replaceable_of_succeeds hold _ List.mem_cons_self
  obtain ⟨d', hsucceeds, -⟩ := hreplaceable.callsFor "\n" body.text
  refine ⟨hname, body, _, d', hbody, ?_, hsucceeds, (hwritten target).2 _ _ hsucceeds,
    (hrecords "\r\n" "a\nb\n\n").trans (by decide)⟩
  exact (hcontent "\n" "old" target).2 _ _ hold

end TestSkeleton
