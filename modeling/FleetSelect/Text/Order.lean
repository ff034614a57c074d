namespace FleetSelect.Text

/-- The first characters in which two texts differ decide; a text stands before its
continuations. -/
def Precedes (x y : String) : Prop :=
  x.toList < y.toList

namespace Precedes

instance (x y : String) : Decidable (Precedes x y) :=
  String.decidableLT x y

theorem irrefl (x : String) : ¬ Precedes x x :=
  List.lt_irrefl x.toList

theorem trans {x y z : String} (h : Precedes x y) (h' : Precedes y z) : Precedes x z :=
  List.lt_trans h h'

theorem asymm {x y : String} (h : Precedes x y) : ¬ Precedes y x :=
  fun h' => irrefl x (h.trans h')

theorem eq_of_not {x y : String} (h : ¬ Precedes x y) (h' : ¬ Precedes y x) : x = y :=
  String.toList_inj.1 (List.le_antisymm h' h)

end Precedes

end FleetSelect.Text
