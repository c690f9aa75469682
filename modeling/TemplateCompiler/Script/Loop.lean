import TemplateCompiler.Script.Name

namespace TemplateCompiler.Script

/-- The start of a loop over `collection`. An array is run through by index and anything else by
its own keys. The body is a function of the element and the loop's state, so that each round has
its own variables; a round that returns ends the loop. -/
def openLoop (key collection : String) : String :=
  "if((function()\x7bvar $c=" ++ collection ++
    ",$k=Array.isArray($c)?null:Object.keys($c==null?\x7b\x7d:$c),$len=$k?$k.length:$c.length;" ++
    "for(var $i=0;$i<$len;$i++)\x7bif(" ++ loopBodyName ++
    "($k?$c[$k[$i]]:$c[$i],\x7bcount:$i+1,index:$i,hasNext:$i<$len-1\x7d)!==undefined)return " ++
    outputName ++ ";\x7dfunction " ++ loopBodyName ++ "(" ++ key ++ "," ++ loopStateName ++ ")\x7b"

/-- The end of a loop. A round that has returned makes the enclosing code return as well. -/
def closeLoop : String :=
  "\x7d\x7d)()!==undefined)\x7breturn " ++ outputName ++ ";\x7d"

end TemplateCompiler.Script
