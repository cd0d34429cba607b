import LiveMarkup.Unicode.Property

/-!
The characters that the latest edition of the standard adds to the tables. Names and quoted texts
go by the latest edition, and patterns by the one before it.
-/

namespace LiveMarkup.Unicode

/-- The characters that are new. -/
def recent : CharSet :=
  table
    ["2191-1+972-1+127-1+3570-15+2-12+1493-1+2772-1+31799-2+2-1+1-1+28-1+21457-16+445-2+54-7+292",
     "9-26+1387-3+8-9+33-2+3172-8+584-44+4-10+20662-25+2-25+286-5+6145-8+1289-22+97-115+16135-3+",
     "445-23+15-17+6095-31+1-22+8-2+4056-1+158-4+341-9+379-4+50-1+3-1+57-1+4-1+28-1+4-1+266-1+47",
     "935-6+5986-12+21762-4298+"]

/-- The new characters that extend the one before them. -/
def recentMarks : CharSet :=
  table ["6863-15+2-12+62478-2+3172-1+1-3+1-1+52092-1+2-1+7-2+5-1+"]

/-- The new letters, and marks that count as letters. -/
def recentLetters : CharSet :=
  table
    ["2191-1+972-1+127-1+39665-2+2-1+1-1+28-1+24910-26+1387-3+50-2+3172-8+584-44+20676-25+2-25+2",
     "86-5+6145-8+1289-22+97-115+22733-31+1-22+8-2+53306-6+5986-12+21762-4298+"]

/-- The new digits and other numbers. -/
def recentNumbers : CharSet :=
  table ["73184-10+21002-3+"]

/-- The characters that may begin a name. -/
def nameStart : CharSet :=
  alphabetic ∪ recentLetters

/-- The characters that may go on with a name: letters and numbers. -/
def nameContinue : CharSet :=
  nameStart ∪ inCategories ["Nd", "Nl", "No"] ∪ recentNumbers

/-- The characters that show nothing by themselves: those that extend the one before them, are
controls or separators, are ignored by default, or are not assigned. -/
def hidden : CharSet :=
  (((graphemeExtend \ inCategories ["Lm"]) ∪ defaultIgnorable ∪
    inCategories ["Cc", "Cf", "Cn", "Co", "Zl", "Zp", "Zs"]) \ (recent \ recentMarks)) \
      .ofList [0x20]

end LiveMarkup.Unicode
