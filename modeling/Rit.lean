import Rit.Properties.Alignment
import Rit.Properties.BaseOffset
import Rit.Properties.CbzRange
import Rit.Properties.CovCount
import Rit.Properties.CovMerge
import Rit.Properties.CovTotals
import Rit.Properties.CovUpdate
import Rit.Properties.Decode
import Rit.Properties.ExclusiveOperands
import Rit.Properties.FieldLaws
import Rit.Properties.History
import Rit.Properties.ItBlocks
import Rit.Properties.Kinds
import Rit.Properties.Options
import Rit.Properties.Phase
import Rit.Properties.Reproduce
import Rit.Properties.Run
import Rit.Properties.SelfCheck
import Rit.Properties.Slots
import Rit.Properties.Truncation
import Rit.Properties.VfpArea
import Rit.Properties.VfpNaN
import Rit.Properties.VfpOperands
