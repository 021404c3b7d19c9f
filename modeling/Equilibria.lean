import Equilibria.MapJournal
import Equilibria.Binary64
import Equilibria.RestoringDivision
import Equilibria.OrderedMap
import Equilibria.IntUtil
import Equilibria.CryptonoteBasic
import Equilibria.FloorSum
import Equilibria.ServiceNodeRules
import Equilibria.FormatUtils
import Equilibria.Random
import Equilibria.ServiceNodeState
import Equilibria.ServiceNodeTx
import Equilibria.SwarmChanges
import Equilibria.ServiceNodeList
import Equilibria.ServiceNodeRuns
import Equilibria.UndoLog
import Equilibria.RecordInvariant
import Equilibria.StakeAccounting
import Equilibria.BlockReward
import Equilibria.RewardSplit
import Equilibria.MinerTx
import Equilibria.BlockTemplate
import Equilibria.MinerTxFaults
import Equilibria.Quorum
import Equilibria.SwarmBounds
import Equilibria.HardFork
import Equilibria.HardForkRuns
import Equilibria.BinaryArchive
import Equilibria.TxExtra
import Equilibria.ServiceNodeStore
import Equilibria.TxPool
import Equilibria.Difficulty
import Equilibria.SignDigits
import Equilibria.CryptoOps
import Equilibria.RegistrationCommand
import Equilibria.Base58
import Equilibria.TxPoolFill
import Equilibria.Mnemonics.ElectrumWords
import Equilibria.Mnemonics.SeedRoundTrip
import Equilibria.Pruning
import Equilibria.OutputOffsets
import Equilibria.ApplyPermutation
import Equilibria.Amount
import Equilibria.QuorumCop
import Equilibria.ChainHooks
import Equilibria.DeregisterVotes
