import CedarC.GuardedRuns
import CedarC.LinkedChain
import CedarC.FbmFrameModel
import CedarC.FbmFramePool
import CedarC.FbmRefinement
import CedarC.FbmOperationSteps
import CedarC.FbmOwnership
import CedarC.FbmCounters
import CedarC.FbmDisplayOrder
import CedarC.CyclicBuffer
import CedarC.FixedWidth
import CedarC.SbmStreamModel
import CedarC.SbmStreamFifo
import CedarC.ArrayPasses
import CedarC.H265ShortTermRps
import CedarC.H265RefPicSetClause
import CedarC.H265ShortTermRpsSets
import CedarC.H265ShortTermRpsChain
import CedarC.H265TileTables
import CedarC.H265ParamSets
import CedarC.H265ParamSetRuns
import CedarC.H264RefMarking
import CedarC.SlotTables
import CedarC.H264RefSets
import CedarC.H264MmcoSteps
import CedarC.H264RefMarkingRuns
import CedarC.MessageQueueModel
import CedarC.MessageQueueRuns
import CedarC.SbmFrameModel
import CedarC.SbmFrameFifo
import CedarC.SbmFrameDetect
import CedarC.SbmFrameSteps
import CedarC.SbmFrameRuns
import CedarC.SbmFrameBytes
import CedarC.SbmFrameContainment
import CedarC.SbmFrameProgress
import CedarC.VdecoderSubmit
import CedarC.VdecoderSubmitRuns
import CedarC.SelectionOrder
import CedarC.H264DisplayOrder
import CedarC.H264FlushOrder
import CedarC.H264DisplayOrderRuns
import CedarC.ResidueWindow
import CedarC.H265PicOrder
import CedarC.H264PicOrder
import CedarC.RelatedResults
import CedarC.H264AlikeLists
import CedarC.H264DefaultRefLists
import CedarC.H264IdrIsolation
import CedarC.AllocationLedger
import CedarC.FbmAllocation
import CedarC.FbmAllocationBalance
import CedarC.FbmReleaseMarks
import CedarC.FbmReleaseProtocol
import CedarC.FbmSharedModel
import CedarC.FbmSharedRuns
import CedarC.FbmSharedHandover
import CedarC.H265Dpb
import CedarC.H265RefLists
import CedarC.H265DecodeFrame
import CedarC.H265DecoderRuns
import CedarC.H265SlotOwnership
import CedarC.H265ListEntries
import CedarC.H265LiveRefs
import CedarC.Rasters
import CedarC.PictureRotation
import CedarC.PictureRotationTurns
import CedarC.PictureRotationAlgebra
import CedarC.VeDevice
import CedarC.VeDeviceRefs
import CedarC.IonAllocator
import CedarC.IonResources
import CedarC.Vp9Superframe
import CedarC.Vp9SuperframeFrames
import CedarC.Vp9DecodeSteps
import CedarC.Vp9DecodeRuns
import CedarC.DecoderLifecycle
import CedarC.DecoderEngineBooks
import CedarC.DecoderLifecycleRuns
import CedarC.H264ScalingLists
import CedarC.H264ParameterSets
import CedarC.H264ActiveSps
import CedarC.H264QuantMatrices
import CedarC.H264QuantRuns
import CedarC.LoanRecord
import CedarC.SbmFrameNalus
import CedarC.H264Stream
import CedarC.H264StreamRuns
import CedarC.LinkedQueue
import CedarC.NodePool
import CedarC.H264MvPool
import CedarC.H264MvPoolKept
import CedarC.H264MvPoolRuns
import CedarC.ListAlternation
import CedarC.H264DefaultListClause
import CedarC.H264PocClause
import CedarC.FbmRejections
import CedarC.SbmRingArithmetic
import CedarC.LengthFraming
import CedarC.AvcLengthCheck
import CedarC.H264SlidingWindow
import CedarC.SbmFrameEmission
import CedarC.H264RefListReordering
import CedarC.H264ReorderingClause
import CedarC.RegionPacking
import CedarC.FbmPictureLayout
import CedarC.FbmPictureLayoutClause
import CedarC.H265FrameRpsClause
import CedarC.H265SliceListClause
import CedarC.H265FlushClause
import CedarC.H264RefListRegister
import CedarC.ExchangePasses
import CedarC.H264PicturePts
import CedarC.EmulationPrevention
import CedarC.H264HeaderBuffer
import CedarC.H264SpsReader
import CedarC.H264SpsBounds
import CedarC.ByteReader
import CedarC.TaggedMessages
import CedarC.H264SeiWalk
import CedarC.StartCodes
import CedarC.H264ExtraData
import CedarC.H264PpsExtension
import CedarC.H264SlotAllocation
import CedarC.H264SlotInvariant
import CedarC.H264SlotRuns
import CedarC.TableWrites
import CedarC.GridScan
import CedarC.H265TileScan
import CedarC.H265TileClause
import CedarC.H265NalPreprocess
import CedarC.H265LongTermRps
import CedarC.H265ScalingList
import CedarC.H265ScalingListClause
import CedarC.SramPort
import CedarC.H265WeightPred
import CedarC.H265EntryPoints
import CedarC.H265ParamSetCalls
import CedarC.IonTranslation
import CedarC.BitWindow
import CedarC.H264SoftwareReader
import CedarC.H264SliceDataStart
import CedarC.H265SoftwareReader
import CedarC.Vp9Timestamps
import CedarC.Vp9BoolCoder
