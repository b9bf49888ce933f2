import Whitebox.Python.Text

/-!
# XML elements

An element of `xml.etree.ElementTree` with its tag, its attributes and its
children.  Texts between the children are left out.
-/

namespace Whitebox.Python

inductive Element where
  | node (tag : Str) (attributes : List (Str × Str)) (children : List Element)

namespace Element

def tag : Element → Str
  | .node tag _ _ => tag

def attributes : Element → List (Str × Str)
  | .node _ attributes _ => attributes

def children : Element → List Element
  | .node _ _ children => children

/-- `element.get(name)`. -/
def get (element : Element) (name : Str) : Option Str :=
  element.attributes.lookup name

/-- `bool(element)`, which is about its children. -/
def isTrue (element : Element) : Bool :=
  !element.children.isEmpty

mutual

/-- `element.iter()`: the element and everything below it, in the order of the
document. -/
def iter : Element → List Element
  | .node tag attributes children =>
      .node tag attributes children :: iterAll children

def iterAll : List Element → List Element
  | [] => []
  | child :: rest => iter child ++ iterAll rest

end

/-- `element.findall(path)` for a path of tags. -/
def findall : List Str → Element → List Element
  | [], element => [element]
  | tag :: path, element =>
      (element.children.filter (·.tag == tag)).flatMap (findall path)

/-- `element.find(path)` for a path of tags. -/
def find (path : List Str) (element : Element) : Option Element :=
  (findall path element).head?

theorem iter_eq_cons (element : Element) :
    element.iter = element :: iterAll element.children := by
  cases element with
  | node tag attributes below => rw [iter, Element.children]

/-- Below elements without children there is nothing. -/
theorem iterAll_of_leaves {elements : List Element}
    (leaves : ∀ element ∈ elements, element.children = []) :
    iterAll elements = elements := by
  induction elements with
  | nil => rw [iterAll]
  | cons element elements induction =>
      obtain ⟨leaf, later⟩ := List.forall_mem_cons.mp leaves
      rw [iterAll, iter_eq_cons, leaf, iterAll, induction later,
        List.singleton_append]

theorem tag_of_mem_findall {path : List Str} {last : Str}
    {element found : Element}
    (member : found ∈ findall (path ++ [last]) element) :
    found.tag = last := by
  induction path generalizing element with
  | nil =>
      obtain ⟨child, inChildren, isFound⟩ := List.mem_flatMap.mp member
      rw [findall, List.mem_singleton] at isFound
      rw [isFound]
      exact eq_of_beq (List.mem_filter.mp inChildren).2
  | cons tag path induction =>
      obtain ⟨child, _, below⟩ := List.mem_flatMap.mp member
      exact induction below

theorem tag_of_find {path : List Str} {last : Str} {element found : Element}
    (isFound : element.find (path ++ [last]) = some found) :
    found.tag = last :=
  tag_of_mem_findall (List.mem_of_mem_head? isFound)

end Element

end Whitebox.Python
