import LayerTransfer.Idna.Label

namespace LayerTransfer.Idna.Domain

def fold? (cs : List Char) : Option (List Char) :=
  if Label.isAscii cs then some (cs.map Char.toLower)
  else (cs.mapM Folding.fold?).map fun ts => Composition.composed ts.flatten

/-- The labels of a name without forbidden characters. A label that is spelled in ASCII counts with
the characters that it stands for. -/
def labels? (forbidden : Char → Bool) (cs : List Char) : Option (List (List Char)) :=
  (fold? cs).bind fun text =>
    if text.any forbidden then none
    else
      ((Text.Cut.pieces '.' text).mapM Label.read?).bind fun ls =>
        if ls.any (·.any forbidden) then none
        else if ls.any (·.any Label.isRightToLeft) && !ls.all Label.isOriented then none
        else some ls

def toAscii? (forbidden : Char → Bool) (cs : List Char) : Option (List Char) :=
  (labels? forbidden cs).map fun ls => List.intercalate ['.'] (ls.map Label.spell)

end LayerTransfer.Idna.Domain
